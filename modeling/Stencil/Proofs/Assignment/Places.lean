import Mathlib.Data.List.Infix
import Stencil.Assignment
import Stencil.Proofs.KeyPath.Mapping

/-!
# Places in mappings

Names lead from a mapping to a value, one mapping within another (`Value.LeadsTo`). In a tree of
mappings in which no key occurs twice, what an assignment puts down is found at its place
(`leadsTo_assignUnder_self`), and all places that are neither above nor below it stay as they are
(`leadsTo_assignUnder_apart`). An assignment keeps what is asked throughout a tree
(`Value.Keeps.assignUnder`).
-/
namespace Stencil

/-! ### Paths -/

/-- Neither of two paths begins with the other. -/
def Incomparable (path other : List Text) : Prop :=
  ¬ path <+: other ∧ ¬ other <+: path

/-- Whether paths are incomparable is decided by their names. -/
instance (path other : List Text) : Decidable (Incomparable path other) :=
  inferInstanceAs (Decidable (¬ path <+: other ∧ ¬ other <+: path))

section Paths

variable {path other : List Text} {name name' : Text}

/-- Whichever of two paths is named first, they are incomparable. -/
theorem Incomparable.symm (apart : Incomparable path other) : Incomparable other path :=
  ⟨apart.2, apart.1⟩

/-- A path that is incomparable with another is not empty. -/
theorem Incomparable.ne_nil (apart : Incomparable path other) : path ≠ [] := by
  rintro rfl
  exact apart.1 List.nil_prefix

/-- Paths are incomparable if their first names differ, or what is behind them is incomparable. -/
theorem incomparable_cons :
    Incomparable (name :: path) (name' :: other) ↔ name ≠ name' ∨ Incomparable path other := by
  rw [Incomparable, Incomparable, List.cons_prefix_cons, List.cons_prefix_cons]
  by_cases same : name = name'
  · simp [same]
  · simp [same, Ne.symm same]

end Paths

/-! ### Entries -/

/-- A value has a text exactly if it is that text. -/
theorem Value.text?_eq_some {value : Value} {content : Text} :
    value.text? = some content ↔ value = .text content := by
  cases value <;> simp [text?]

section Entries

variable {name : Text} {value : Value} {entries : List (Value × Value)}

/-- A value is put under a name where the name stands first. -/
theorem putUnder_cons (entry : Value × Value) (rest : List (Value × Value)) :
    putUnder name value (entry :: rest) =
      if entry.1.text? = some name then (entry.1, value) :: rest
      else entry :: putUnder name value rest := by
  obtain ⟨key, old⟩ := entry
  cases key with
  | text other =>
    by_cases same : other = name <;> simp [putUnder, Value.text?, same]
  | _ => simp [putUnder, Value.text?]

/-- The entries under a name are those of the value where the name stands first. -/
theorem entriesUnder_cons (entry : Value × Value) (rest : List (Value × Value)) :
    entriesUnder name (entry :: rest) =
      if entry.1.text? = some name then entry.2.entries?.getD []
      else entriesUnder name rest := by
  obtain ⟨key, old⟩ := entry
  cases key with
  | text other =>
    by_cases same : other = name <;> simp [entriesUnder, Value.text?, same]
  | _ => simp [entriesUnder, Value.text?]

/-- Behind the entry of a key no other entry has the key. -/
theorem ne_of_nodup_cons {entry other : Value × Value} {rest : List (Value × Value)}
    (different : ((entry :: rest).map Prod.fst).Nodup) (member : other ∈ rest) :
    other.1 ≠ entry.1 := by
  rw [List.map_cons, List.nodup_cons] at different
  intro same
  apply different.1
  rw [← same]
  exact List.mem_map_of_mem member

/-- Where a value is put under a name, the entry of the name has it, and all other entries stay. -/
theorem mem_putUnder (different : (entries.map Prod.fst).Nodup) {entry : Value × Value} :
    entry ∈ putUnder name value entries ↔
      entry = (.text name, value) ∨ entry ∈ entries ∧ entry.1 ≠ .text name := by
  induction entries with
  | nil => simp [putUnder]
  | cons first rest ih =>
    have behind : ∀ other ∈ rest, other.1 ≠ first.1 :=
      fun other member => ne_of_nodup_cons different member
    rw [List.map_cons, List.nodup_cons] at different
    rw [putUnder_cons]
    by_cases here : first.1.text? = some name
    · have named : first.1 = .text name := Value.text?_eq_some.mp here
      rw [if_pos here, List.mem_cons, List.mem_cons, named]
      rw [named] at behind
      constructor
      · rintro (rfl | member)
        · exact .inl rfl
        · exact .inr ⟨.inr member, behind entry member⟩
      · rintro (rfl | ⟨rfl | member, other⟩)
        · exact .inl rfl
        · exact absurd named other
        · exact .inr member
    · have unnamed : first.1 ≠ .text name := fun same => here (Value.text?_eq_some.mpr same)
      rw [if_neg here, List.mem_cons, List.mem_cons, ih different.2]
      constructor
      · rintro (rfl | rfl | ⟨member, other⟩)
        · exact .inr ⟨.inl rfl, unnamed⟩
        · exact .inl rfl
        · exact .inr ⟨.inr member, other⟩
      · rintro (rfl | ⟨rfl | member, other⟩)
        · exact .inr (.inl rfl)
        · exact .inl rfl
        · exact .inr (.inr ⟨member, other⟩)

/-- What stands in the entries after a value was put under a name is that value, or was there. -/
theorem eq_or_mem_of_mem_putUnder {entry : Value × Value}
    (member : entry ∈ putUnder name value entries) : entry.2 = value ∨ entry ∈ entries := by
  induction entries with
  | nil =>
    obtain rfl := List.mem_singleton.mp member
    exact .inl rfl
  | cons first rest ih =>
    rw [putUnder_cons] at member
    by_cases here : first.1.text? = some name
    · rw [if_pos here] at member
      rcases List.mem_cons.mp member with rfl | behind
      · exact .inl rfl
      · exact .inr (List.mem_cons_of_mem first behind)
    · rw [if_neg here] at member
      rcases List.mem_cons.mp member with rfl | behind
      · exact .inr List.mem_cons_self
      · exact (ih behind).imp_right (List.mem_cons_of_mem first)

/-- The keys stay where a value is put under one of them; another name comes behind them. -/
theorem map_fst_putUnder (name : Text) (value : Value) (entries : List (Value × Value)) :
    (putUnder name value entries).map Prod.fst = entries.map Prod.fst ∨
      Value.text name ∉ entries.map Prod.fst ∧
        (putUnder name value entries).map Prod.fst = entries.map Prod.fst ++ [.text name] := by
  induction entries with
  | nil => exact .inr ⟨List.not_mem_nil, rfl⟩
  | cons first rest ih =>
    rw [putUnder_cons]
    by_cases here : first.1.text? = some name
    · rw [if_pos here]
      exact .inl rfl
    · have unnamed : Value.text name ≠ first.1 :=
        fun same => here (Value.text?_eq_some.mpr same.symm)
      rw [if_neg here, List.map_cons, List.map_cons]
      rcases ih with same | ⟨new, same⟩
      · exact .inl (congrArg (first.1 :: ·) same)
      · exact .inr ⟨List.not_mem_cons_of_ne_of_not_mem unnamed new,
          congrArg (first.1 :: ·) same⟩

/-- Only the last value that is put under a name counts. -/
theorem putUnder_putUnder (name : Text) (value value' : Value) (entries : List (Value × Value)) :
    putUnder name value (putUnder name value' entries) = putUnder name value entries := by
  induction entries with
  | nil => simp [putUnder]
  | cons first rest ih =>
    by_cases here : first.1.text? = some name <;> simp [putUnder_cons, here, ih]

/-- The entries under a name are those of the value that was put there. -/
theorem entriesUnder_putUnder (name : Text) (value : Value) (entries : List (Value × Value)) :
    entriesUnder name (putUnder name value entries) = value.entries?.getD [] := by
  induction entries with
  | nil => simp [putUnder, entriesUnder]
  | cons first rest ih =>
    by_cases here : first.1.text? = some name <;>
      simp [putUnder_cons, entriesUnder_cons, here, ih]

/-- The entries under a name stay where a value is put under another. -/
theorem entriesUnder_putUnder_of_ne {other : Text} (differ : name ≠ other) (value : Value)
    (entries : List (Value × Value)) :
    entriesUnder name (putUnder other value entries) = entriesUnder name entries := by
  induction entries with
  | nil => simp [putUnder, entriesUnder, differ.symm]
  | cons first rest ih =>
    rw [putUnder_cons]
    by_cases here : first.1.text? = some other
    · have unnamed : first.1.text? ≠ some name := by
        rw [here]
        exact fun same => differ (Option.some.inj same).symm
      rw [if_pos here, entriesUnder_cons, entriesUnder_cons, if_neg unnamed, if_neg unnamed]
    · rw [if_neg here, entriesUnder_cons, entriesUnder_cons, ih]

/-- There are no entries under a name, or the name has a mapping of them. -/
theorem entriesUnder_eq_nil_or_mem (name : Text) (entries : List (Value × Value)) :
    entriesUnder name entries = [] ∨
      (Value.text name, Value.mapping (entriesUnder name entries)) ∈ entries := by
  induction entries with
  | nil => exact .inl rfl
  | cons first rest ih =>
    obtain ⟨key, value⟩ := first
    rw [entriesUnder_cons]
    by_cases here : key.text? = some name
    · obtain rfl := Value.text?_eq_some.mp here
      rw [if_pos here]
      cases value with
      | mapping inner => exact .inr List.mem_cons_self
      | _ => exact .inl rfl
    · rw [if_neg here]
      exact ih.imp_right (List.mem_cons_of_mem _)

/-- There are no entries under a name that does not occur. -/
theorem entriesUnder_of_not_mem (new : Value.text name ∉ entries.map Prod.fst) :
    entriesUnder name entries = [] := by
  apply (entriesUnder_eq_nil_or_mem name entries).resolve_right
  intro member
  exact new (List.mem_map_of_mem member)

/-- The entries under a name are those of the value that the name has. -/
theorem entriesUnder_of_mem (different : (entries.map Prod.fst).Nodup)
    (member : (Value.text name, value) ∈ entries) :
    entriesUnder name entries = value.entries?.getD [] := by
  induction entries with
  | nil => exact absurd member List.not_mem_nil
  | cons first rest ih =>
    rw [entriesUnder_cons]
    rcases List.mem_cons.mp member with rfl | behind
    · exact if_pos rfl
    · have other : Value.text name ≠ first.1 := ne_of_nodup_cons different behind
      rw [List.map_cons, List.nodup_cons] at different
      rw [if_neg fun here => other (Value.text?_eq_some.mp here).symm]
      exact ih different.2 behind

end Entries

/-- What an assignment puts under the first of its names: the text where there are no more names,
and a mapping with the text at its place otherwise. -/
def placed (text : Text) (names : List Text) (entries : List (Value × Value)) : Value :=
  if names = [] then .text text else .mapping (assignUnder text names entries)

/-- An assignment puts one value under the first of its names. -/
theorem assignUnder_cons (text name : Text) (names : List Text) (entries : List (Value × Value)) :
    assignUnder text (name :: names) entries =
      putUnder name (placed text names (entriesUnder name entries)) entries := by
  cases names with
  | nil => rfl
  | cons next names => rfl

/-- Behind the first of more names stands a mapping. -/
theorem placed_of_ne_nil (text : Text) {names : List Text} (more : names ≠ [])
    (entries : List (Value × Value)) :
    placed text names entries = .mapping (assignUnder text names entries) :=
  if_neg more

/-! ### Trees -/

/-- What is asked throughout a tree of mappings: something of the keys of each mapping, and
something of each value that is no mapping. New names may join the keys, and texts may be put
anywhere. -/
structure TreeRule where
  /-- What is asked of the keys of a mapping. -/
  keys : List Value → Prop
  /-- What is asked of a value that is no mapping. -/
  leaf : Value → Prop
  /-- A mapping may be empty. -/
  empty : keys []
  /-- A new name may join the keys. -/
  snoc {known : List Value} {name : Text} :
    keys known → Value.text name ∉ known → keys (known ++ [.text name])
  /-- A text may be put anywhere. -/
  text (content : Text) : leaf (.text content)

/-- No key of a mapping occurs twice; a value that is no mapping may be any. -/
def TreeRule.distinct : TreeRule where
  keys := List.Nodup
  leaf _ := True
  empty := List.nodup_nil
  snoc different new := List.nodup_append.mpr
    ⟨different, List.nodup_singleton _, fun key known other last => by
      rw [List.mem_singleton.mp last]
      exact ne_of_mem_of_not_mem known new⟩
  text _ := trivial

/-- A value keeps to a rule throughout, one mapping within another. -/
inductive Value.Keeps (rule : TreeRule) : Value → Prop
  /-- A mapping does if its keys do, and all that they have. -/
  | mapping {entries : List (Value × Value)} (keys : rule.keys (entries.map Prod.fst))
    (values : ∀ entry ∈ entries, entry.2.Keeps rule) : Keeps rule (.mapping entries)
  /-- A value that is no mapping does if what is asked of it holds. -/
  | leaf {value : Value} (plain : value.entries? = none) (kept : rule.leaf value) :
    Keeps rule value

namespace Value.Keeps

variable {rule : TreeRule} {name : Text} {value : Value} {entries : List (Value × Value)}

/-- The keys of a mapping keep to the rule. -/
theorem keys (tree : (Value.mapping entries).Keeps rule) : rule.keys (entries.map Prod.fst) := by
  cases tree with
  | mapping keys _ => exact keys
  | leaf plain _ => contradiction

/-- What the keys of a mapping have keeps to the rule. -/
theorem of_mem (tree : (Value.mapping entries).Keeps rule) {entry : Value × Value}
    (member : entry ∈ entries) : entry.2.Keeps rule := by
  cases tree with
  | mapping _ values => exact values entry member
  | leaf plain _ => contradiction

/-- An empty mapping keeps to every rule. -/
theorem empty (rule : TreeRule) : (Value.mapping []).Keeps rule :=
  .mapping rule.empty fun _ member => absurd member List.not_mem_nil

/-- A text keeps to every rule. -/
theorem text (rule : TreeRule) (content : Text) : (Value.text content).Keeps rule :=
  .leaf rfl (rule.text content)

/-- A mapping keeps to a rule where a value that does is put under a name. -/
theorem putUnder (tree : (Value.mapping entries).Keeps rule) (inner : value.Keeps rule) :
    (Value.mapping (putUnder name value entries)).Keeps rule := by
  constructor
  · rcases map_fst_putUnder name value entries with same | ⟨new, same⟩
    · rw [same]
      exact tree.keys
    · rw [same]
      exact rule.snoc tree.keys new
  · intro entry member
    rcases eq_or_mem_of_mem_putUnder member with same | old
    · rw [same]
      exact inner
    · exact tree.of_mem old

/-- The entries under a name keep to the rule of the mapping. -/
theorem entriesUnder (tree : (Value.mapping entries).Keeps rule) (name : Text) :
    (Value.mapping (entriesUnder name entries)).Keeps rule := by
  rcases entriesUnder_eq_nil_or_mem name entries with none | member
  · rw [none]
    exact empty rule
  · exact tree.of_mem member

/-- A mapping keeps to a rule under an assignment. -/
theorem assignUnder (tree : (Value.mapping entries).Keeps rule) (text : Text)
    (names : List Text) : (Value.mapping (assignUnder text names entries)).Keeps rule := by
  fun_induction Stencil.assignUnder text names entries with
  | case1 entries => exact tree
  | case2 name entries => exact tree.putUnder (.text rule text)
  | case3 name names entries more ih => exact tree.putUnder (ih (tree.entriesUnder name))

end Value.Keeps

/-! ### Where names lead -/

/-- Names lead from a value to a value, one mapping within another. -/
inductive Value.LeadsTo : Value → List Text → Value → Prop
  /-- No names lead to the value itself. -/
  | here (value : Value) : LeadsTo value [] value
  /-- A name leads to what a mapping has for it, and the names behind it lead on from there. -/
  | entry {entries : List (Value × Value)} {name : Text} {names : List Text} {inner found : Value}
    (member : (.text name, inner) ∈ entries) (behind : LeadsTo inner names found) :
    LeadsTo (.mapping entries) (name :: names) found

section Leading

variable {text name : Text} {names path : List Text} {value found : Value}
  {entries : List (Value × Value)}

/-- A name leads into a mapping through its entry. -/
theorem leadsTo_cons_iff : (Value.mapping entries).LeadsTo (name :: names) found ↔
    ∃ inner, (Value.text name, inner) ∈ entries ∧ inner.LeadsTo names found := by
  constructor
  · rintro (_ | ⟨member, behind⟩)
    exact ⟨_, member, behind⟩
  · rintro ⟨inner, member, behind⟩
    exact .entry member behind

/-- Names lead nowhere from a value that is no mapping. -/
theorem not_leadsTo_of_plain (plain : value.entries? = none) (some_name : path ≠ []) :
    ¬ value.LeadsTo path found := by
  rintro (_ | _)
  · exact some_name rfl
  · contradiction

/-- A name of which a mapping has entries leads on as from these entries. -/
theorem leadsTo_cons_iff_entriesUnder (different : (entries.map Prod.fst).Nodup)
    (more : path ≠ []) :
    (Value.mapping entries).LeadsTo (name :: path) found ↔
      (Value.mapping (entriesUnder name entries)).LeadsTo path found := by
  rw [leadsTo_cons_iff]
  constructor
  · rintro ⟨inner, member, behind⟩
    rw [entriesUnder_of_mem different member]
    cases held : inner.entries? with
    | none => exact absurd behind (not_leadsTo_of_plain held more)
    | some others =>
      cases inner with
      | mapping others' =>
        obtain rfl := Option.some.inj held
        exact behind
      | _ => contradiction
  · intro behind
    rcases entriesUnder_eq_nil_or_mem name entries with none | member
    · rw [none] at behind
      obtain ⟨next, rest, rfl⟩ := List.exists_cons_of_ne_nil more
      obtain ⟨inner, member, -⟩ := leadsTo_cons_iff.mp behind
      exact absurd member List.not_mem_nil
    · exact ⟨_, member, behind⟩

/-- What is put under a name is what the name leads into. -/
theorem leadsTo_putUnder_self (different : (entries.map Prod.fst).Nodup) :
    (Value.mapping (putUnder name value entries)).LeadsTo (name :: path) found ↔
      value.LeadsTo path found := by
  rw [leadsTo_cons_iff]
  constructor
  · rintro ⟨inner, member, behind⟩
    rcases (mem_putUnder different).mp member with same | ⟨-, other⟩
    · rw [← (Prod.mk.inj same).2]
      exact behind
    · exact absurd rfl other
  · intro behind
    exact ⟨value, (mem_putUnder different).mpr (.inl rfl), behind⟩

/-- What is put under a name is not on the way of another. -/
theorem leadsTo_putUnder_of_ne {other : Text} (different : (entries.map Prod.fst).Nodup)
    (differ : other ≠ name) :
    (Value.mapping (putUnder name value entries)).LeadsTo (other :: path) found ↔
      (Value.mapping entries).LeadsTo (other :: path) found := by
  rw [leadsTo_cons_iff, leadsTo_cons_iff]
  apply exists_congr
  intro inner
  rw [mem_putUnder different]
  simp [differ]

/-- The names of an assignment lead to its text. -/
theorem leadsTo_assignUnder_self (text : Text) (some_name : names ≠ [])
    (tree : (Value.mapping entries).Keeps .distinct) :
    (Value.mapping (assignUnder text names entries)).LeadsTo names (.text text) := by
  induction names generalizing entries with
  | nil => contradiction
  | cons name names ih =>
    rw [assignUnder_cons, leadsTo_putUnder_self tree.keys]
    by_cases last : names = []
    · subst last
      exact .here _
    · rw [placed_of_ne_nil text last]
      exact ih last (tree.entriesUnder name)

/-- A path that is incomparable with the names of an assignment leads to what it led to before. -/
theorem leadsTo_assignUnder_apart (text : Text) (apart : Incomparable path names)
    (tree : (Value.mapping entries).Keeps .distinct) :
    (Value.mapping (assignUnder text names entries)).LeadsTo path found ↔
      (Value.mapping entries).LeadsTo path found := by
  induction names generalizing path entries with
  | nil => exact absurd rfl apart.symm.ne_nil
  | cons name names ih =>
    obtain ⟨first, path, rfl⟩ := List.exists_cons_of_ne_nil apart.ne_nil
    rw [assignUnder_cons]
    -- The path leads into the mapping under the name and parts from the names there, or it parts
    -- from them at once.
    by_cases same : first = name
    · subst same
      have behind : Incomparable path names :=
        (incomparable_cons.mp apart).resolve_left fun differ => differ rfl
      rw [leadsTo_putUnder_self tree.keys, placed_of_ne_nil text behind.symm.ne_nil,
        ih behind (tree.entriesUnder first), leadsTo_cons_iff_entriesUnder tree.keys behind.ne_nil]
    · exact leadsTo_putUnder_of_ne tree.keys same

end Leading

end Stencil
