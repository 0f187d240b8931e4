import Mathlib.Data.Set.List
import Stencil.Proofs.Outcome
import Stencil.Proofs.Yaml.Parsed
import Stencil.Settings.File

/-!
# Unknown names in a file with settings

The keys that no settings have are put in order and joined as texts. That is done whenever all of
them are texts (`Settings.unknownNames_of_texts`); another key fails as one of a wrong type
(`Settings.unknownNames_of_other`).
-/
namespace Stencil

/-- A fault of a wrong type. -/
def Fault.OfType (fault : Fault) : Prop := fault.kind = "TypeError"

/-! ### Order of scalars -/

/-- Numbers that are no decimals are put in order without a fault. -/
theorem Number.ordered_eq_ok {a b : Number} (sign : OrderSign) (first : a.isDecimal = false)
    (second : b.isDecimal = false) : ∃ truth, a.ordered sign b = .ok truth := by
  rw [Number.ordered]
  split
  · exact ⟨_, rfl⟩
  · rw [first, second]
    exact ⟨false, rfl⟩

/-- The number of a scalar is no decimal. -/
theorem Value.IsScalar.number {value : Value} (scalar : value.IsScalar) {number : Number}
    (held : value.number? = some number) : number.isDecimal = false := by
  cases scalar with
  | flag | int | double =>
    obtain rfl := Option.some.inj held
    rfl
  | _ => contradiction

/-- Scalars are put in order, or are of types that are not ordered. -/
theorem Value.IsScalar.ordered_fails {a b : Value} (first : a.IsScalar) (second : b.IsScalar)
    (classOf : Nat → Text) (sign : OrderSign) :
    FailsOnly Fault.OfType (Value.ordered classOf sign a b) := by
  unfold Value.ordered
  split
  · exact .ok
  · exact .ok
  · exact .ite .ok (.error rfl)
  · cases first
  · cases first
  · cases first
  · split
    · next x y number number' =>
      obtain ⟨truth, decided⟩ :=
        Number.ordered_eq_ok sign (first.number number) (second.number number')
      rw [decided]
      exact .ok
    · exact .error rfl

/-- Texts are put in order. -/
theorem Value.ordered_texts (classOf : Nat → Text) (sign : OrderSign) (first second : Text) :
    ∃ truth, Value.ordered classOf sign (.text first) (.text second) = .ok truth :=
  ⟨_, by rw [Value.ordered]⟩

/-! ### Putting in order -/

section Sorting

variable {α : Type} {comesBefore : α → α → Except Fault Bool} {allowed : Fault → Prop} {item : α}
  {items result : List α}

/-- An item is put in order in no other ways to fail than those of comparing it. -/
theorem insertSorted_fails
    (each : ∀ other ∈ items, FailsOnly allowed (comesBefore item other)) :
    FailsOnly allowed (insertSorted comesBefore item items) := by
  induction items with
  | nil => exact .ok
  | cons other rest ih =>
    obtain ⟨here, behind⟩ := List.forall_mem_cons.mp each
    exact here.bind fun before _ => .ite .ok ((ih behind).bind fun _ _ => .ok)

/-- Where an item is put in order, the items are those from before and the one. -/
theorem perm_of_insertSorted (sorted : insertSorted comesBefore item items = .ok result) :
    result.Perm (item :: items) := by
  induction items generalizing result with
  | nil =>
    obtain rfl := Except.ok.inj sorted
    exact .refl _
  | cons other rest ih =>
    obtain ⟨before, -, later⟩ := bind_eq_ok.mp sorted
    cases before with
    | true =>
      obtain rfl := Except.ok.inj later
      exact .refl _
    | false =>
      obtain ⟨inserted, behind, same⟩ := bind_eq_ok.mp later
      obtain rfl := Except.ok.inj same
      exact ((ih behind).cons other).trans (.swap item other rest)

end Sorting

namespace Settings

variable {allowed : Fault → Prop} {keys sorted : List Value} {entries : List (Value × Value)}

/-- Keys that are put in order are those that were given. -/
theorem perm_of_sortedKeys (found : sortedKeys keys = .ok sorted) : sorted.Perm keys := by
  -- By induction on the keys that are left, for all those that were put in order so far.
  have gathered : ∀ known : List Value,
      keys.foldlM
          (fun sorted key => insertSorted (Value.ordered (fun _ => "object") .less) key sorted)
          known = .ok sorted →
        sorted.Perm (keys ++ known) := by
    clear found
    induction keys with
    | nil =>
      intro known found
      obtain rfl := Except.ok.inj found
      exact .refl _
    | cons key rest ih =>
      intro known found
      rw [List.foldlM_cons] at found
      obtain ⟨inserted, here, behind⟩ := bind_eq_ok.mp found
      have later : sorted.Perm (rest ++ key :: known) :=
        (ih inserted behind).trans ((perm_of_insertSorted here).append_left rest)
      exact later.trans List.perm_middle
  have all := gathered [] found
  rw [List.append_nil] at all
  exact all

/-- Keys are put in order in no other ways to fail than those of comparing two of them. -/
theorem sortedKeys_fails
    (each : ∀ key ∈ keys, ∀ other ∈ keys,
      FailsOnly allowed (Value.ordered (fun _ => "object") .less key other)) :
    FailsOnly allowed (sortedKeys keys) := by
  -- The keys put in order so far are among the given ones, so no other keys are ever compared.
  have gathered : ∀ rest known : List Value, rest ⊆ keys → known ⊆ keys →
      FailsOnly allowed
        (rest.foldlM
          (fun sorted key => insertSorted (Value.ordered (fun _ => "object") .less) key sorted)
          known) := by
    intro rest
    induction rest with
    | nil => exact fun known _ _ => .ok
    | cons key rest ih =>
      intro known among known_among
      obtain ⟨key_among, rest_among⟩ := List.cons_subset.mp among
      rw [List.foldlM_cons]
      refine (insertSorted_fails fun other member =>
        each key key_among other (known_among member)).bind fun inserted here => ?_
      apply ih inserted rest_among
      intro other member
      rcases List.mem_cons.mp ((perm_of_insertSorted here).mem_iff.mp member) with rfl | old
      · exact key_among
      · exact known_among old
  exact gathered keys [] (List.Subset.refl _) (List.nil_subset _)

/-- Values are taken for texts exactly if all of them are. -/
theorem textsOf_eq_ok {values : List Value} {names : List Text} :
    textsOf values = .ok names ↔ values = names.map Value.text := by
  rw [textsOf, mapM_eq_ok, ← List.forall₂_eq_eq_eq, List.forall₂_map_right_iff]
  conv_rhs => rw [← List.zipIdx_map_fst 0 values, List.forall₂_map_left_iff]
  constructor
  · intro each
    apply each.imp
    rintro ⟨value, index⟩ name taken
    cases value with
    | text content => exact congrArg Value.text (Except.ok.inj taken)
    | _ => contradiction
  · intro each
    apply each.imp
    rintro ⟨value, index⟩ name (rfl : value = .text name)
    rfl

/-- Values are not taken for texts where one is of another type. -/
theorem textsOf_fails (values : List Value) : FailsOnly Fault.OfType (textsOf values) := by
  apply FailsOnly.mapM
  rintro ⟨value, index⟩ -
  cases value <;> first | exact .ok | exact .error rfl

/-- A key names some settings. -/
def IsKnown (key : Value) : Prop := ∃ name ∈ names, key = .text name

/-- The keys that no settings have, as they come. -/
def unknownKeys (entries : List (Value × Value)) : List Value :=
  (entries.map Prod.fst).filter fun key => !key.text?.any names.contains

/-- A key is unknown if it names no settings. -/
theorem mem_unknownKeys {key : Value} :
    key ∈ unknownKeys entries ↔ key ∈ entries.map Prod.fst ∧ ¬ IsKnown key := by
  rw [unknownKeys, List.mem_filter]
  apply and_congr_right
  intro _
  cases key <;> simp [Value.text?, IsKnown]

/-- What holds of all keys holds of the unknown ones. -/
theorem forall_unknownKeys {holds : Value → Prop} (each : ∀ entry ∈ entries, holds entry.1) :
    ∀ key ∈ unknownKeys entries, holds key := by
  intro key unknown
  obtain ⟨entry, member, rfl⟩ := List.mem_map.mp (mem_unknownKeys.mp unknown).1
  exact each entry member

/-- The unknown names that are found are the unknown keys, in some order. -/
theorem perm_of_unknownNames {found : List Text} (given : unknownNames entries = .ok found) :
    (found.map Value.text).Perm (unknownKeys entries) := by
  obtain ⟨sorted, put_in_order, taken⟩ := bind_eq_ok.mp given
  rw [← textsOf_eq_ok.mp taken]
  exact perm_of_sortedKeys put_in_order

/-- There are no unknown names exactly if each key names some settings. -/
theorem unknownNames_eq_nil :
    unknownNames entries = .ok [] ↔ ∀ entry ∈ entries, IsKnown entry.1 := by
  have none_unknown : unknownKeys entries = [] ↔ ∀ entry ∈ entries, IsKnown entry.1 := by
    rw [List.eq_nil_iff_forall_not_mem]
    simp only [mem_unknownKeys, List.mem_map, not_and, not_not, forall_exists_index, and_imp,
      forall_apply_eq_imp_iff₂]
  rw [← none_unknown]
  constructor
  · intro given
    exact (perm_of_unknownNames given).symm.eq_nil
  · intro none
    show (sortedKeys (unknownKeys entries) >>= textsOf) = .ok []
    rw [none]
    rfl

/-- Where all keys are texts, the unknown names are found. -/
theorem unknownNames_of_texts (texts : ∀ entry ∈ entries, ∃ name, entry.1 = .text name) :
    ∃ found, unknownNames entries = .ok found := by
  have text_of_unknown : ∀ key ∈ unknownKeys entries, ∃ name, key = .text name :=
    forall_unknownKeys texts
  -- Texts are compared without any fault, so putting them in order has none.
  have never : FailsOnly (fun _ => False) (sortedKeys (unknownKeys entries)) := by
    apply sortedKeys_fails
    intro key unknown other unknown'
    obtain ⟨name, rfl⟩ := text_of_unknown key unknown
    obtain ⟨name', rfl⟩ := text_of_unknown other unknown'
    obtain ⟨truth, decided⟩ := Value.ordered_texts (fun _ => "object") .less name name'
    rw [decided]
    exact .ok
  cases put_in_order : sortedKeys (unknownKeys entries) with
  | error fault => exact (never fault put_in_order).elim
  | ok sorted =>
    have all_texts : sorted ∈ Set.range (List.map Value.text) := by
      rw [Set.range_list_map]
      intro key member
      obtain ⟨name, same⟩ :=
        text_of_unknown key ((perm_of_sortedKeys put_in_order).mem_iff.mp member)
      exact ⟨name, same.symm⟩
    obtain ⟨found, same⟩ := all_texts
    exact ⟨found, bind_eq_ok.mpr ⟨sorted, put_in_order, textsOf_eq_ok.mpr same.symm⟩⟩

/-- Where some key is no text, looking for unknown names fails as with a value of a wrong type. -/
theorem unknownNames_of_other (scalars : ∀ entry ∈ entries, entry.1.IsScalar)
    {entry : Value × Value} (member : entry ∈ entries) (other : entry.1.text? = none) :
    ∃ fault, unknownNames entries = .error fault ∧ fault.OfType := by
  have unknown : entry.1 ∈ unknownKeys entries := by
    refine mem_unknownKeys.mpr ⟨List.mem_map_of_mem member, ?_⟩
    rintro ⟨name, -, same⟩
    rw [same] at other
    contradiction
  have scalar_of_unknown : ∀ key ∈ unknownKeys entries, key.IsScalar := forall_unknownKeys scalars
  have fails : FailsOnly Fault.OfType (unknownNames entries) := by
    refine (sortedKeys_fails fun key unknown other unknown' => ?_).bind fun sorted _ =>
      textsOf_fails sorted
    exact (scalar_of_unknown key unknown).ordered_fails (scalar_of_unknown other unknown') _ _
  cases outcome : unknownNames entries with
  | error fault => exact ⟨fault, rfl, fails fault outcome⟩
  | ok found =>
    have named : entry.1 ∈ found.map Value.text :=
      (perm_of_unknownNames outcome).mem_iff.mpr unknown
    obtain ⟨name, -, same⟩ := List.mem_map.mp named
    rw [← same] at other
    contradiction

end Settings

end Stencil
