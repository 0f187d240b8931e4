import Mathlib.Data.List.Perm.Subperm
import Stencil.Proofs.Outcome
import Stencil.Proofs.Value.Number

/-!
# Values that are the same or equal

Two values are alike (`Value.Alike`) if they are one object or equal: numbers by their values, lists
and tuples item by item, sets and mappings regardless of order. Alike is transitive, and symmetric
between values that are formed (`Value.Formed`): no two items of a set and no two keys of a mapping
are alike. On formed values, the comparison that looks for a partner in one direction only decides
this relation wherever it does not fail, as long as no class of the objects in them says how to compare
them (`Value.sameBy_decides`).
-/
namespace Stencil

/-- Two values are the same object or equal. -/
inductive Value.Alike : Value → Value → Prop
  /-- The absent value is alike itself. -/
  | nothing : Alike .nothing .nothing
  /-- Numbers of all types, and booleans as zero and one, are alike by their values. -/
  | number {a b : Value} {x y : Number} (first : a.number? = some x) (second : b.number? = some y)
    (alike : x.Alike y) : Alike a b
  /-- A text is alike a text of the same characters. -/
  | text (content : Text) : Alike (.text content) (.text content)
  /-- Bytes are alike the same bytes. -/
  | bytes (content : List UInt8) : Alike (.bytes content) (.bytes content)
  /-- A date is alike the same date, with a time the same instant. -/
  | moment {a b : Moment} (same : a.same b = true) : Alike (.moment a) (.moment b)
  /-- Lists are alike item by item. -/
  | list {as bs : List Value} (items : List.Forall₂ Alike as bs) : Alike (.list as) (.list bs)
  /-- Tuples are alike item by item. -/
  | tuple {as bs : List Value} (items : List.Forall₂ Alike as bs) : Alike (.tuple as) (.tuple bs)
  /-- Sets are alike if there are as many items in both, and each item of the first has a partner in
  the second. -/
  | set {as bs : List Value} (partner : Value → Value) (counted : as.length = bs.length)
    (among : ∀ a ∈ as, partner a ∈ bs) (alike : ∀ a ∈ as, Alike a (partner a)) :
    Alike (.set as) (.set bs)
  /-- Mappings are alike if there are as many entries in both, and each entry of the first has a
  partner in the second, with a key and a value alike. -/
  | mapping {as bs : List (Value × Value)} (partner : Value × Value → Value × Value)
    (counted : as.length = bs.length) (among : ∀ a ∈ as, partner a ∈ bs)
    (keys : ∀ a ∈ as, Alike a.1 (partner a).1) (values : ∀ a ∈ as, Alike a.2 (partner a).2) :
    Alike (.mapping as) (.mapping bs)
  /-- A member of an enumeration is alike itself. -/
  | member (identity : Nat) (name : Text) {enumeration enumeration' : Text} {value value' : Value} :
    Alike (.member enumeration identity name value) (.member enumeration' identity name value')
  /-- An object that answers look-ups itself is alike itself. -/
  | keyed (identity : Nat) {missing missing' : MissingKey} {entries entries' : List (Text × Value)} :
    Alike (.keyed identity missing entries) (.keyed identity missing' entries')
  /-- An object is alike itself. -/
  | object (reference : Nat) : Alike (.object reference) (.object reference)
  /-- A class is alike itself. -/
  | type (name : Text) : Alike (.type name) (.type name)
  /-- A function, a method or a property is alike itself. -/
  | routine (routine : Routine) : Alike (.routine routine) (.routine routine)

/-! ### Parts -/

/-- The values that a value is made of. -/
def Value.parts : Value → List Value
  | .list items | .tuple items | .set items => items
  | .mapping entries => entries.map Prod.fst ++ entries.map Prod.snd
  | .member _ _ _ value => [value]
  | .keyed _ _ entries => entries.map Prod.snd
  | _ => []

/-- The values that a value tells apart: the items of a set and the keys of a mapping. -/
def Value.distinguished : Value → List Value
  | .set items => items
  | .mapping entries => entries.map Prod.fst
  | _ => []

/-- A value is formed as collections are: no two items of a set and no two keys of a mapping are
alike, in the value and in all its parts. -/
inductive Value.Formed : Value → Prop
  /-- All parts are formed, and what is told apart is not alike. -/
  | intro {value : Value} (parts : ∀ part ∈ value.parts, part.Formed)
    (different : value.distinguished.Pairwise fun a b => ¬ a.Alike b) : Formed value

/-- Something holds of a value and of all its parts. -/
inductive Value.Throughout (holds : Value → Prop) : Value → Prop
  /-- It holds of the value, and throughout its parts. -/
  | intro {value : Value} (here : holds value) (parts : ∀ part ∈ value.parts, Throughout holds part) :
    Throughout holds value

/-- A value is formed, and something holds throughout it. -/
structure Value.Regular (holds : Value → Prop) (value : Value) : Prop where
  /-- The value is formed. -/
  formed : value.Formed
  /-- It holds throughout the value. -/
  throughout : value.Throughout holds

namespace Value

variable {a b c value : Value} {entries : List (Value × Value)} {entry : Value × Value}

/-- The key of an entry is a part of the mapping. -/
theorem key_mem_parts (here : entry ∈ entries) : entry.1 ∈ (mapping entries).parts :=
  List.mem_append_left _ (List.mem_map_of_mem here)

/-- The value of an entry is a part of the mapping. -/
theorem value_mem_parts (here : entry ∈ entries) : entry.2 ∈ (mapping entries).parts :=
  List.mem_append_right _ (List.mem_map_of_mem here)

/-- The parts of a formed value are formed. -/
theorem Formed.of_mem_parts {part : Value} (formed : value.Formed) (among : part ∈ value.parts) :
    part.Formed := by
  cases formed with
  | intro parts _ => exact parts part among

/-- What a formed value tells apart is not alike. -/
theorem Formed.different (formed : value.Formed) :
    value.distinguished.Pairwise fun a b => ¬ a.Alike b := by
  cases formed with
  | intro _ different => exact different

/-- What holds throughout a value holds of the value. -/
theorem Throughout.here {holds : Value → Prop} (throughout : value.Throughout holds) :
    holds value := by
  cases throughout with
  | intro here _ => exact here

/-- The parts of a regular value are regular. -/
theorem Regular.of_mem_parts {holds : Value → Prop} {part : Value} (regular : value.Regular holds)
    (among : part ∈ value.parts) : part.Regular holds := by
  refine ⟨regular.formed.of_mem_parts among, ?_⟩
  cases regular.throughout with
  | intro _ parts => exact parts part among

/-- Parts are smaller than the value. -/
theorem sizeOf_lt_of_mem_parts {part : Value} (among : part ∈ value.parts) :
    sizeOf part < sizeOf value := by
  cases value with
  | list items | tuple items | set items =>
    have smaller := List.sizeOf_lt_of_mem (show part ∈ items from among)
    simp only [list.sizeOf_spec, tuple.sizeOf_spec, set.sizeOf_spec]
    omega
  | mapping entries =>
    rcases List.mem_append.mp among with among | among
    all_goals
      obtain ⟨⟨key, value⟩, here, rfl⟩ := List.mem_map.mp among
      have smaller := List.sizeOf_lt_of_mem here
      simp only [mapping.sizeOf_spec, Prod.mk.sizeOf_spec] at smaller ⊢
      omega
  | member enumeration identity name value =>
    obtain rfl := List.mem_singleton.mp among
    simp only [member.sizeOf_spec]
    omega
  | keyed identity missing entries =>
    obtain ⟨⟨key, value⟩, here, rfl⟩ := List.mem_map.mp among
    have smaller := List.sizeOf_lt_of_mem here
    simp only [keyed.sizeOf_spec, Prod.mk.sizeOf_spec] at smaller ⊢
    omega
  | _ => exact absurd among List.not_mem_nil

/-- What holds of a value whenever it holds of its parts holds of every value. -/
theorem parts_induction {holds : Value → Prop}
    (step : ∀ value : Value, (∀ part ∈ value.parts, holds part) → holds value) (value : Value) :
    holds value :=
  step value fun part _ => parts_induction step part
termination_by sizeOf value
decreasing_by exact sizeOf_lt_of_mem_parts ‹_›

/-! ### Alike -/

/-- Lists are alike exactly if their items are one by one. -/
theorem alike_list_iff {as bs : List Value} :
    Alike (.list as) (.list bs) ↔ List.Forall₂ Alike as bs := by
  refine ⟨fun alike => ?_, .list⟩
  cases alike with
  | list items => exact items
  | number => contradiction

/-- Tuples are alike exactly if their items are one by one. -/
theorem alike_tuple_iff {as bs : List Value} :
    Alike (.tuple as) (.tuple bs) ↔ List.Forall₂ Alike as bs := by
  refine ⟨fun alike => ?_, .tuple⟩
  cases alike with
  | tuple items => exact items
  | number => contradiction

/-- Sets are alike exactly if there are as many items in both and each of the first is alike one of
the second. -/
theorem alike_set_iff {as bs : List Value} :
    Alike (.set as) (.set bs) ↔ as.length = bs.length ∧ ∀ a ∈ as, ∃ b ∈ bs, a.Alike b := by
  constructor
  · intro alike
    cases alike with
    | set partner counted among alike =>
      exact ⟨counted, fun a here => ⟨_, among a here, alike a here⟩⟩
    | number first => contradiction
  · rintro ⟨counted, each⟩
    choose! partner among alike using each
    exact .set partner counted among alike

/-- Mappings are alike exactly if there are as many entries in both and each of the first is alike
one of the second, in its key and its value. -/
theorem alike_mapping_iff {as bs : List (Value × Value)} :
    Alike (.mapping as) (.mapping bs) ↔
      as.length = bs.length ∧ ∀ a ∈ as, ∃ b ∈ bs, a.1.Alike b.1 ∧ a.2.Alike b.2 := by
  constructor
  · intro alike
    cases alike with
    | mapping partner counted among keys values =>
      exact ⟨counted, fun a here => ⟨_, among a here, keys a here, values a here⟩⟩
    | number first => contradiction
  · rintro ⟨counted, each⟩
    choose! partner among alike using each
    exact .mapping partner counted among (fun a here => (alike a here).1)
      fun a here => (alike a here).2

/-- Moments are alike exactly if they are the same. -/
theorem alike_moment_iff {first second : Moment} :
    Alike (.moment first) (.moment second) ↔ first.same second = true := by
  refine ⟨fun alike => ?_, .moment⟩
  cases alike with
  | moment same => exact same
  | number => contradiction

/-- Members of enumerations are alike exactly if they have one identity and one name. -/
theorem alike_member_iff {enumeration enumeration' name name' : Text} {identity identity' : Nat}
    {value value' : Value} :
    Alike (.member enumeration identity name value) (.member enumeration' identity' name' value') ↔
      identity = identity' ∧ name = name' := by
  constructor
  · intro alike
    cases alike with
    | member => exact ⟨rfl, rfl⟩
    | number => contradiction
  · rintro ⟨rfl, rfl⟩
    exact .member identity name

/-- Objects that answer look-ups themselves are alike exactly if they have one identity. -/
theorem alike_keyed_iff {identity identity' : Nat} {missing missing' : MissingKey}
    {entries entries' : List (Text × Value)} :
    Alike (.keyed identity missing entries) (.keyed identity' missing' entries') ↔
      identity = identity' := by
  constructor
  · intro alike
    cases alike with
    | keyed => rfl
    | number => contradiction
  · rintro rfl
    exact .keyed identity

/-- An object is alike itself only. -/
theorem alike_object_iff {reference : Nat} : Alike (.object reference) a ↔ a = .object reference := by
  constructor
  · intro alike
    cases alike with
    | object => rfl
    | number => contradiction
  · rintro rfl
    exact .object reference

/-- Only an object itself is alike it. -/
theorem alike_to_object_iff {reference : Nat} :
    Alike a (.object reference) ↔ a = .object reference := by
  constructor
  · intro alike
    cases alike with
    | object => rfl
    | number => contradiction
  · rintro rfl
    exact .object reference

/-- Moments that are the same are so both ways. -/
theorem same_moment_symm {first second : Moment} (same : first.same second = true) :
    second.same first = true := by
  simp only [Moment.same, Moment.isComparable, Bool.and_eq_true, decide_eq_true_eq] at same ⊢
  exact ⟨⟨same.1.1.symm, same.1.2.symm⟩, same.2.symm⟩

/-- Moments that are the same as one moment are the same. -/
theorem same_moment_trans {first second third : Moment} (same : first.same second = true)
    (same' : second.same third = true) : first.same third = true := by
  simp only [Moment.same, Moment.isComparable, Bool.and_eq_true, decide_eq_true_eq] at same same' ⊢
  exact ⟨⟨same.1.1.trans same'.1.1, same.1.2.trans same'.1.2⟩, same.2.trans same'.2⟩

/-- Items that are alike one by one with those alike others one by one are alike the others. -/
theorem items_trans {as bs cs : List Value} (items : List.Forall₂ Alike as bs)
    (items' : List.Forall₂ Alike bs cs)
    (trans : ∀ a ∈ as, ∀ b c, Alike a b → Alike b c → Alike a c) : List.Forall₂ Alike as cs := by
  induction items generalizing cs with
  | nil => exact items'
  | cons here behind ih =>
    cases items' with
    | cons here' behind' =>
      obtain ⟨first, others⟩ := List.forall_mem_cons.mp trans
      exact .cons (first _ _ here here') (ih behind' others)

/-- Items that are alike others one by one are so the other way round, if each is. -/
theorem items_symm {as bs : List Value} (items : List.Forall₂ Alike as bs)
    (symm : ∀ a ∈ as, ∀ b, Alike a b → Alike b a) : List.Forall₂ Alike bs as := by
  induction items with
  | nil => exact .nil
  | cons here behind ih =>
    obtain ⟨first, others⟩ := List.forall_mem_cons.mp symm
    exact .cons (first _ here) (ih others)

/-- Values alike one value are alike. -/
theorem Alike.trans (alike : a.Alike b) (alike' : b.Alike c) : a.Alike c := by
  -- Parts are compared with parts, so the induction is on the parts of the first value.
  induction a using parts_induction generalizing b c with
  | step a ih =>
    have of_part : ∀ part ∈ a.parts, ∀ b c, Alike part b → Alike b c → Alike part c :=
      fun part member b c alike alike' => ih part member alike alike'
    cases alike with
    | nothing | text | bytes | object | type | routine => exact alike'
    | number first second numbers =>
      cases alike' with
      | number second' third numbers' =>
        obtain rfl := Option.some.inj (second.symm.trans second')
        exact .number first third (numbers.trans numbers')
      | _ => contradiction
    | moment same =>
      cases alike' with
      | moment same' => exact .moment (same_moment_trans same same')
      | number => contradiction
    | list items =>
      cases alike' with
      | list items' => exact .list (items_trans items items' of_part)
      | number => contradiction
    | tuple items =>
      cases alike' with
      | tuple items' => exact .tuple (items_trans items items' of_part)
      | number => contradiction
    | set partner counted among alike =>
      cases alike' with
      | set partner' counted' among' alike' =>
        refine .set (partner' ∘ partner) (counted.trans counted') ?_ ?_
        · exact fun a here => among' _ (among a here)
        · exact fun a here => of_part a here _ _ (alike a here) (alike' _ (among a here))
      | number => contradiction
    | mapping partner counted among keys values =>
      cases alike' with
      | mapping partner' counted' among' keys' values' =>
        refine .mapping (partner' ∘ partner) (counted.trans counted') ?_ ?_ ?_
        · exact fun a here => among' _ (among a here)
        · intro a here
          exact of_part _ (key_mem_parts here) _ _ (keys a here) (keys' _ (among a here))
        · intro a here
          exact of_part _ (value_mem_parts here) _ _ (values a here) (values' _ (among a here))
      | number => contradiction
    | member identity name =>
      cases alike' with
      | member => exact .member identity name
      | number => contradiction
    | keyed identity =>
      cases alike' with
      | keyed => exact .keyed identity
      | number => contradiction

/-- Where each of some things has a partner of a key alike, as many partners as there are things are
all partners, provided that no two things have keys alike. -/
theorem exists_of_partners {α : Type} {key : α → Value} {as bs : List α} {partner : α → α}
    (counted : as.length = bs.length) (among : ∀ a ∈ as, partner a ∈ bs)
    (alike : ∀ a ∈ as, (key a).Alike (key (partner a)))
    (symm : ∀ a ∈ as, ∀ value, (key a).Alike value → value.Alike (key a))
    (different : (as.map key).Pairwise fun a b => ¬ a.Alike b) :
    ∀ b ∈ bs, ∃ a ∈ as, partner a = b := by
  have apart : as.Pairwise fun a a' => partner a ≠ partner a' := by
    refine (List.pairwise_map.mp different).imp_of_mem fun {a a'} here here' not_alike same => ?_
    have back : (key (partner a)).Alike (key a') := by
      rw [same]
      exact symm a' here' _ (alike a' here')
    exact not_alike ((alike a here).trans back)
  have nodup : (as.map partner).Nodup := List.pairwise_map.mpr apart
  have within : as.map partner ⊆ bs := by
    intro b member
    obtain ⟨a, here, rfl⟩ := List.mem_map.mp member
    exact among a here
  have all : (as.map partner).Perm bs := by
    apply (List.subperm_of_subset nodup within).perm_of_length_le
    rw [List.length_map, counted]
  intro b member
  exact List.mem_map.mp (all.mem_iff.mpr member)

/-- A value that is alike a formed one the formed one is alike. -/
theorem Alike.symm (formed : a.Formed) (alike : a.Alike b) : b.Alike a := by
  induction a using parts_induction generalizing b with
  | step a ih =>
    have of_part : ∀ part ∈ a.parts, ∀ b, Alike part b → Alike b part :=
      fun part member b alike => ih part member (formed.of_mem_parts member) alike
    cases alike with
    | nothing => exact .nothing
    | text content => exact .text content
    | bytes content => exact .bytes content
    | object reference => exact .object reference
    | type name => exact .type name
    | routine routine => exact .routine routine
    | number first second numbers => exact .number second first numbers.symm
    | moment same => exact .moment (same_moment_symm same)
    | list items => exact .list (items_symm items of_part)
    | tuple items => exact .tuple (items_symm items of_part)
    | @set as bs partner counted among alike =>
      have different : (as.map id).Pairwise fun a b => ¬ a.Alike b := by
        rw [List.map_id]
        exact formed.different
      have all : ∀ b ∈ bs, ∃ a ∈ as, partner a = b :=
        exists_of_partners counted among alike of_part different
      refine alike_set_iff.mpr ⟨counted.symm, fun b member => ?_⟩
      obtain ⟨a, here, rfl⟩ := all b member
      exact ⟨a, here, of_part a here _ (alike a here)⟩
    | @mapping as bs partner counted among keys values =>
      have of_key : ∀ entry ∈ as, ∀ value, entry.1.Alike value → value.Alike entry.1 :=
        fun entry here => of_part _ (key_mem_parts here)
      have all : ∀ b ∈ bs, ∃ a ∈ as, partner a = b :=
        exists_of_partners counted among keys of_key formed.different
      refine alike_mapping_iff.mpr ⟨counted.symm, fun b member => ?_⟩
      obtain ⟨a, here, rfl⟩ := all b member
      exact ⟨a, here, of_key a here _ (keys a here),
        of_part _ (value_mem_parts here) _ (values a here)⟩
    | member identity name => exact .member identity name
    | keyed identity => exact .keyed identity

end Value

/-! ### The comparison -/

section Comparison

variable {test : ObjectTest} {plain : Value → Prop} {key : Value} {entries : List (Value × Value)}

/-- A search for an item decides whether there is one, if the test decides which ones count. -/
theorem holdsOfSome_decides {α : Type} {test : α → Except Fault Bool} {holds : α → Prop}
    {items : List α} (decides : ∀ item ∈ items, Decides (test item) (holds item)) :
    Decides (holdsOfSome test items) (∃ item ∈ items, holds item) := by
  induction items with
  | nil =>
    refine .ok (iff_of_false Bool.false_ne_true ?_)
    rintro ⟨item, member, -⟩
    exact List.not_mem_nil member
  | cons item rest ih =>
    obtain ⟨here, behind⟩ := List.forall_mem_cons.mp decides
    refine (here.or (ih behind)).congr ?_
    rw [List.exists_mem_cons_iff]

/-- A search in entries ends without a fault with the value of the first one whose key passes, or
with none if no key passes. -/
theorem first_entry_eq_ok {α β : Type} {test : α → Except Fault Bool} {entries : List (α × β)}
    {found : Option β} (searched : firstPassing? test entries = .ok found) :
    (found = none ∧ ∀ entry ∈ entries, test entry.1 = .ok false) ∨
      ∃ before key value after, found = some value ∧ entries = before ++ (key, value) :: after ∧
        test key = .ok true ∧ ∀ entry ∈ before, test entry.1 = .ok false := by
  induction entries with
  | nil =>
    obtain rfl := Except.ok.inj searched
    exact .inl ⟨rfl, nofun⟩
  | cons entry rest ih =>
    obtain ⟨key, value⟩ := entry
    obtain ⟨passes, tested, later⟩ := bind_eq_ok.mp searched
    cases passes with
    | true =>
      obtain rfl := Except.ok.inj later
      exact .inr ⟨[], key, value, rest, rfl, rfl, tested, nofun⟩
    | false =>
      rcases ih later with
        ⟨rfl, none_passes⟩ | ⟨before, key', value', after, rfl, rfl, passes, earlier⟩
      · exact .inl ⟨rfl, List.forall_mem_cons.mpr ⟨tested, none_passes⟩⟩
      · exact .inr ⟨(key, value) :: before, key', value', after, rfl, rfl, passes,
          List.forall_mem_cons.mpr ⟨tested, earlier⟩⟩

/-- A search for a formed key, in entries of which no two keys are alike, ends without a fault with
the value of the entry whose key is alike. -/
theorem first_entry_of_formed {found : Option Value} {value : Value}
    (decides : ∀ entry ∈ entries, Decides (Value.sameBy test key entry.1) (key.Alike entry.1))
    (formed : key.Formed) (different : (entries.map Prod.fst).Pairwise fun a b => ¬ a.Alike b)
    (searched : firstPassing? (fun other => Value.sameBy test key other) entries = .ok found) :
    found = some value ↔ ∃ entry ∈ entries, key.Alike entry.1 ∧ entry.2 = value := by
  have refuses : ∀ entry ∈ entries, Value.sameBy test key entry.1 = .ok false → ¬ key.Alike entry.1 :=
    fun entry member tested alike => Bool.noConfusion ((decides entry member false tested).mpr alike)
  rcases first_entry_eq_ok searched with
    ⟨rfl, none_passes⟩ | ⟨before, key', value', after, rfl, rfl, passes, earlier⟩
  · refine iff_of_false nofun ?_
    rintro ⟨entry, member, alike, -⟩
    exact refuses entry member (none_passes entry member) alike
  · have alike : key.Alike key' := (decides (key', value') (by simp) true passes).mp rfl
    constructor
    · intro same
      exact ⟨(key', value'), by simp, alike, Option.some.inj same⟩
    · rintro ⟨entry, member, alike', rfl⟩
      rcases List.mem_append.mp member with earlier_one | later_one
      · exact absurd alike' (refuses entry member (earlier entry earlier_one))
      · rcases List.mem_cons.mp later_one with rfl | behind
        · rfl
        · -- A later entry with such a key would have a key alike the one found.
          rw [List.map_append, List.pairwise_append] at different
          obtain ⟨-, from_here, -⟩ := different
          have not_alike := (List.pairwise_cons.mp from_here).1 entry.1 (List.mem_map_of_mem behind)
          exact absurd ((alike.symm formed).trans alike') not_alike

/-- A search for the key of an entry that is followed by the comparison of its value decides whether
the entry has a partner. -/
theorem entry_decides {value : Value} {rest : Except Fault Bool} {others : Prop}
    (keys : ∀ entry ∈ entries, Decides (Value.sameBy test key entry.1) (key.Alike entry.1))
    (values : ∀ entry ∈ entries, Decides (Value.sameBy test value entry.2) (value.Alike entry.2))
    (behind : Decides rest others)
    (formed : key.Formed) (different : (entries.map Prod.fst).Pairwise fun a b => ¬ a.Alike b) :
    Decides
      (do
        match ← firstPassing? (fun other => Value.sameBy test key other) entries with
        | some found => if ← Value.sameBy test value found then rest else return false
        | none => return false)
      ((∃ entry ∈ entries, key.Alike entry.1 ∧ value.Alike entry.2) ∧ others) := by
  intro truth compared
  obtain ⟨found, searched, later⟩ := bind_eq_ok.mp compared
  have found_iff : ∀ value', found = some value' ↔
      ∃ entry ∈ entries, key.Alike entry.1 ∧ entry.2 = value' := fun value' =>
    first_entry_of_formed keys formed different searched
  cases found with
  | none =>
    obtain rfl := Except.ok.inj later
    refine iff_of_false Bool.false_ne_true ?_
    rintro ⟨⟨entry, member, alike, -⟩, -⟩
    exact absurd ((found_iff entry.2).mpr ⟨entry, member, alike, rfl⟩) nofun
  | some found =>
    obtain ⟨entry, member, alike, rfl⟩ := (found_iff found).mp rfl
    have partner_iff : value.Alike entry.2 ↔
        ∃ entry ∈ entries, key.Alike entry.1 ∧ value.Alike entry.2 := by
      refine ⟨fun alike' => ⟨entry, member, alike, alike'⟩, ?_⟩
      rintro ⟨other, member', alike', alike_values⟩
      have one : some entry.2 = some other.2 :=
        (found_iff other.2).mpr ⟨other, member', alike', rfl⟩
      rw [Option.some.inj one]
      exact alike_values
    rw [← partner_iff]
    exact ((values entry member).and behind) truth later

/-- Where objects that are plain are not equal to each other, the comparisons of regular values, of
entries, of items regardless of order and of items one by one decide whether the values are alike, and
the entries and items have partners. -/
theorem comparisons_decide (apart : ∀ a b, plain a → plain b → test a b = .ok false) :
    (∀ a b : Value, a.Regular plain → b.Regular plain →
      Decides (Value.sameBy test a b) (a.Alike b)) ∧
    (∀ as bs : List (Value × Value), (∀ a ∈ as, a.1.Regular plain ∧ a.2.Regular plain) →
      (Value.mapping bs).Regular plain →
      Decides (entriesWithin test as bs) (∀ a ∈ as, ∃ b ∈ bs, a.1.Alike b.1 ∧ a.2.Alike b.2)) ∧
    (∀ as bs : List Value, (∀ a ∈ as, a.Regular plain) → (∀ b ∈ bs, b.Regular plain) →
      Decides (allWithin test as bs) (∀ a ∈ as, ∃ b ∈ bs, a.Alike b)) ∧
    ∀ as bs : List Value, (∀ a ∈ as, a.Regular plain) → (∀ b ∈ bs, b.Regular plain) →
      as.length = bs.length →
      Decides (sameItems test as bs) (List.Forall₂ Value.Alike as bs) := by
  -- The cases are those of the comparison, in the order of its definition.
  apply Value.sameBy.mutual_induct
  case case1 =>
    intro _ _
    rw [Value.sameBy]
    exact .ok (iff_of_true rfl .nothing)
  case case2 | case3 | case19 | case20 =>
    intro a b _ _
    rw [Value.sameBy]
    refine .ok (beq_iff_eq.trans ⟨?_, fun alike => ?_⟩)
    · rintro rfl
      first
      | exact .text a
      | exact .bytes a
      | exact .type a
      | exact .routine a
    · cases alike with
      | number => contradiction
      | _ => rfl
  case case4 =>
    intro a b _ _
    rw [Value.sameBy]
    exact .ok Value.alike_moment_iff.symm
  case case5 | case7 =>
    intro a b counted items regular regular'
    rw [Value.sameBy, if_pos counted]
    simp only [Value.alike_list_iff, Value.alike_tuple_iff]
    exact items (fun _ => regular.of_mem_parts) (fun _ => regular'.of_mem_parts) counted
  case case6 | case8 =>
    intro a b not_counted _ _
    rw [Value.sameBy, if_neg not_counted]
    simp only [Value.alike_list_iff, Value.alike_tuple_iff]
    exact .ok (iff_of_false Bool.false_ne_true fun items => not_counted items.length_eq)
  case case9 =>
    intro a b counted within regular regular'
    rw [Value.sameBy, if_pos counted, Value.alike_set_iff, and_iff_right counted]
    exact within (fun _ => regular.of_mem_parts) (fun _ => regular'.of_mem_parts)
  case case11 =>
    intro a b counted within regular regular'
    have parts : ∀ entry ∈ a, entry.1.Regular plain ∧ entry.2.Regular plain := fun entry member =>
      ⟨regular.of_mem_parts (Value.key_mem_parts member),
        regular.of_mem_parts (Value.value_mem_parts member)⟩
    rw [Value.sameBy, if_pos counted, Value.alike_mapping_iff, and_iff_right counted]
    exact within parts regular'
  case case10 | case12 =>
    intro a b not_counted _ _
    rw [Value.sameBy, if_neg not_counted]
    simp only [Value.alike_set_iff, Value.alike_mapping_iff]
    exact .ok (iff_of_false Bool.false_ne_true fun both => not_counted both.1)
  case case13 =>
    intro enumeration a name value enumeration' b name' value' _ _
    rw [Value.sameBy, Value.alike_member_iff]
    refine .ok ?_
    rw [Bool.and_eq_true, beq_iff_eq, beq_iff_eq]
  case case14 =>
    intro a missing entries b missing' entries' _ _
    rw [Value.sameBy, Value.alike_keyed_iff]
    exact .ok beq_iff_eq
  case case15 =>
    intro reference _ _
    rw [Value.sameBy, if_pos rfl]
    exact .ok (iff_of_true rfl (.object reference))
  case case16 =>
    intro a b other regular regular'
    rw [Value.sameBy, if_neg other, apart _ _ regular.throughout.here regular'.throughout.here,
      Value.alike_object_iff]
    exact .ok (iff_of_false Bool.false_ne_true fun same => other (Value.object.inj same).symm)
  case case17 =>
    intro reference value no_object regular regular'
    rw [Value.sameBy, apart _ _ regular.throughout.here regular'.throughout.here,
      Value.alike_object_iff]
    · exact .ok (iff_of_false Bool.false_ne_true (no_object reference))
    · exact no_object
  case case18 =>
    intro value reference no_object regular regular'
    rw [Value.sameBy, apart _ _ regular.throughout.here regular'.throughout.here,
      Value.alike_to_object_iff]
    · exact .ok (iff_of_false Bool.false_ne_true (no_object reference))
    · exact no_object
  case case21 =>
    -- Values of two kinds are alike as numbers only.
    intro a b nothing text bytes moment list tuple set mapping member keyed _ object _ type routine
      _ _
    rw [Value.sameBy]
    · refine (Value.equalNumbers_decides a b).congr ⟨?_, fun alike => ?_⟩
      · rintro ⟨x, y, first, second, alike⟩
        exact .number first second alike
      · cases alike with
        | number first second alike => exact ⟨_, _, first, second, alike⟩
        | nothing => exact (nothing rfl rfl).elim
        | text => exact (text _ _ rfl rfl).elim
        | bytes => exact (bytes _ _ rfl rfl).elim
        | moment => exact (moment _ _ rfl rfl).elim
        | list => exact (list _ _ rfl rfl).elim
        | tuple => exact (tuple _ _ rfl rfl).elim
        | set => exact (set _ _ rfl rfl).elim
        | mapping => exact (mapping _ _ rfl rfl).elim
        | member => exact (member _ _ _ _ _ _ _ _ rfl rfl).elim
        | keyed => exact (keyed _ _ _ _ _ _ rfl rfl).elim
        | object => exact (object _ rfl).elim
        | type => exact (type _ _ rfl rfl).elim
        | routine => exact (routine _ _ rfl rfl).elim
    all_goals assumption
  case case22 =>
    intro others _ _
    rw [entriesWithin]
    exact .ok (iff_of_true rfl nofun)
  case case23 =>
    intro key value rest others keys values behind regular regular'
    obtain ⟨⟨regular_key, regular_value⟩, regular_rest⟩ := List.forall_mem_cons.mp regular
    rw [entriesWithin, List.forall_mem_cons]
    refine entry_decides (fun entry member => ?_) (fun entry member => ?_)
      (behind regular_rest regular') regular_key.formed regular'.formed.different
    · exact keys entry.1 regular_key (regular'.of_mem_parts (Value.key_mem_parts member))
    · exact values entry.2 regular_value (regular'.of_mem_parts (Value.value_mem_parts member))
  case case24 =>
    intro others _ _
    rw [allWithin]
    exact .ok (iff_of_true rfl nofun)
  case case25 =>
    intro item rest others same behind regular regular'
    obtain ⟨regular_item, regular_rest⟩ := List.forall_mem_cons.mp regular
    rw [allWithin, List.forall_mem_cons]
    have here : Decides (holdsOfSome (fun b => Value.sameBy test item b) others)
        (∃ b ∈ others, item.Alike b) :=
      holdsOfSome_decides fun b member => same b regular_item (regular' b member)
    exact here.and (behind regular_rest regular')
  case case26 =>
    intro a as b bs same behind regular regular' counted
    obtain ⟨regular_a, regular_as⟩ := List.forall_mem_cons.mp regular
    obtain ⟨regular_b, regular_bs⟩ := List.forall_mem_cons.mp regular'
    rw [sameItems, List.forall₂_cons]
    exact (same regular_a regular_b).and (behind regular_as regular_bs (Nat.succ.inj counted))
  case case27 =>
    intro as bs ended _ _ counted
    rw [sameItems]
    · refine .ok (iff_of_true rfl ?_)
      cases as with
      | nil =>
        obtain rfl := List.eq_nil_of_length_eq_zero counted.symm
        exact .nil
      | cons a as =>
        cases bs with
        | nil => contradiction
        | cons b bs => exact (ended a as b bs rfl rfl).elim
    · exact ended

/-- Where objects that are plain are not equal to each other, the comparison of two regular values
decides whether they are alike. -/
theorem Value.sameBy_decides {a b : Value}
    (apart : ∀ a b, plain a → plain b → test a b = .ok false) (regular : a.Regular plain)
    (regular' : b.Regular plain) : Decides (Value.sameBy test a b) (a.Alike b) :=
  (comparisons_decide apart).1 a b regular regular'

end Comparison

end Stencil
