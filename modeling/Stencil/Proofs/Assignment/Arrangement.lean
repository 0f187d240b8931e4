import Mathlib.Data.List.Nodup
import Stencil.Proofs.Assignment.Places
import Stencil.Proofs.Value.Alike

/-!
# Rearranged mappings

Mappings are rearranged if they differ in nothing but the order of entries, one mapping within
another (`Value.Rearranged`). Where the keys and values of a tree can be compared, it is equal to
every rearranged one (`Value.Rearranged.same`). Assignments keep mappings rearranged
(`Value.Rearranged.assignUnder`), and two of them to incomparable places can be carried out in either
order (`Value.Rearranged.assignUnder_comm`).
-/
namespace Stencil

/-! ### Entries in any order -/

/-- The same value but for the order of entries in mappings: the entries of one mapping, each with
its value rearranged, are those of the other in some order. -/
inductive Value.Rearranged : Value → Value → Prop
  /-- A value that is no mapping stays. -/
  | leaf {value : Value} (plain : value.entries? = none) : Rearranged value value
  /-- Entries change places, and so do those in their values. -/
  | mapping {entries others : List (Value × Value)} (inner : Value × Value → Value)
    (values : ∀ entry ∈ entries, Rearranged entry.2 (inner entry))
    (order : (entries.map fun entry => (entry.1, inner entry)).Perm others) :
    Rearranged (.mapping entries) (.mapping others)

namespace Value.Rearranged

variable {value value' : Value} {entries others : List (Value × Value)} {name : Text}
  {names names' : List Text}

/-- A value is itself, rearranged. -/
theorem refl (value : Value) : Rearranged value value := by
  induction value using Value.parts_induction with
  | step value ih =>
    cases value with
    | mapping entries =>
      refine .mapping Prod.snd (fun entry member => ih _ (value_mem_parts member)) ?_
      simp
    | _ => exact .leaf rfl

/-- Entries in another order are rearranged. -/
theorem of_perm (order : entries.Perm others) :
    Rearranged (.mapping entries) (.mapping others) := by
  refine .mapping Prod.snd (fun entry _ => refl entry.2) ?_
  simpa using order

/-- What is rearranged twice is rearranged. -/
theorem trans {first second third : Value} (before : Rearranged first second)
    (after : Rearranged second third) : Rearranged first third := by
  induction before generalizing third with
  | leaf plain => exact after
  | @mapping entries others inner values order ih =>
    cases after with
    | leaf plain => contradiction
    | @mapping _ last inner' values' order' =>
      have among : ∀ entry ∈ entries, (entry.1, inner entry) ∈ others := fun entry member =>
        order.mem_iff.mp (List.mem_map_of_mem (f := fun entry => (entry.1, inner entry)) member)
      refine .mapping (fun entry => inner' (entry.1, inner entry)) ?_ ?_
      · intro entry member
        exact ih entry member (values' _ (among entry member))
      · have changed := order.map fun entry : Value × Value => (entry.1, inner' entry)
        rw [List.map_map] at changed
        exact changed.trans order'

/-- Rearranged mappings have the same keys in some order. -/
theorem perm_keys (arranged : Rearranged (.mapping entries) (.mapping others)) :
    (entries.map Prod.fst).Perm (others.map Prod.fst) := by
  cases arranged with
  | leaf plain => contradiction
  | mapping inner values order =>
    have keys := order.map Prod.fst
    rw [List.map_map] at keys
    exact keys

end Value.Rearranged

/-- Entries with different keys are each others' in some order if they are the same ones. -/
theorem perm_of_mem_iff {entries others : List (Value × Value)}
    (different : (entries.map Prod.fst).Nodup) (different' : (others.map Prod.fst).Nodup)
    (same : ∀ entry, entry ∈ entries ↔ entry ∈ others) : entries.Perm others :=
  (List.perm_ext_iff_of_nodup different.of_map different'.of_map).mpr same

/-- Keys that are different stay so where a value is put under a name. -/
theorem nodup_putUnder {entries : List (Value × Value)}
    (different : (entries.map Prod.fst).Nodup) (name : Text) (value : Value) :
    ((putUnder name value entries).map Prod.fst).Nodup := by
  rcases map_fst_putUnder name value entries with same | ⟨new, same⟩
  · rw [same]
    exact different
  · rw [same]
    exact TreeRule.distinct.snoc different new

/-- Entries in another order stay so where a value is put under a name. -/
theorem perm_putUnder {entries others : List (Value × Value)} (order : entries.Perm others)
    (different : (entries.map Prod.fst).Nodup) (name : Text) (value : Value) :
    (putUnder name value entries).Perm (putUnder name value others) := by
  have different' : (others.map Prod.fst).Nodup := (order.map Prod.fst).nodup_iff.mp different
  apply perm_of_mem_iff (nodup_putUnder different name value) (nodup_putUnder different' name value)
  intro entry
  rw [mem_putUnder different, mem_putUnder different', order.mem_iff]

/-- Changing the values of entries after one was put under a name, which gets a value of its own, is
putting that one under the name after changing the values. -/
theorem map_putUnder {entries : List (Value × Value)} (different : (entries.map Prod.fst).Nodup)
    {name : Text} {value value' : Value} {change : Value × Value → Value} :
    ((putUnder name value entries).map fun entry =>
        (entry.1, if entry.1.text? = some name then value' else change entry)) =
      putUnder name value' (entries.map fun entry => (entry.1, change entry)) := by
  induction entries with
  | nil => simp [putUnder, Value.text?]
  | cons first rest ih =>
    have behind : ∀ other ∈ rest, other.1 ≠ first.1 :=
      fun other member => ne_of_nodup_cons different member
    rw [List.map_cons, List.nodup_cons] at different
    rw [putUnder_cons, List.map_cons, putUnder_cons]
    by_cases here : first.1.text? = some name
    · rw [if_pos here, if_pos here, List.map_cons, if_pos here]
      apply congrArg (_ :: ·)
      apply List.map_congr_left
      intro other member
      rw [Value.text?_eq_some.mp here] at behind
      rw [if_neg fun same => behind other member (Value.text?_eq_some.mp same)]
    · rw [if_neg here, if_neg here, List.map_cons, if_neg here, ih different.2]

/-- Where values are put under two names, both entries are there, and all entries of other keys. -/
theorem mem_putUnder_putUnder {entries : List (Value × Value)} {name name' : Text}
    {value value' : Value} (differ : name ≠ name') (different : (entries.map Prod.fst).Nodup)
    {entry : Value × Value} :
    entry ∈ putUnder name value (putUnder name' value' entries) ↔
      entry = (.text name, value) ∨ entry = (.text name', value') ∨
        entry ∈ entries ∧ entry.1 ≠ .text name ∧ entry.1 ≠ .text name' := by
  rw [mem_putUnder (nodup_putUnder different name' value'), mem_putUnder different]
  constructor
  · rintro (rfl | ⟨rfl | ⟨member, other'⟩, other⟩)
    · exact .inl rfl
    · exact .inr (.inl rfl)
    · exact .inr (.inr ⟨member, other, other'⟩)
  · rintro (rfl | rfl | ⟨member, other, other'⟩)
    · exact .inl rfl
    · exact .inr ⟨.inl rfl, fun same => differ (Value.text.inj same).symm⟩
    · exact .inr ⟨.inr ⟨member, other'⟩, other⟩

namespace Value.Rearranged

variable {value value' : Value} {entries others : List (Value × Value)} {name : Text}
  {names names' : List Text}

/-- Values under two names can be put there in either order. -/
theorem putUnder_comm {name' : Text} (differ : name ≠ name') (value value' : Value)
    (different : (entries.map Prod.fst).Nodup) :
    Rearranged (.mapping (putUnder name value (putUnder name' value' entries)))
      (.mapping (putUnder name' value' (putUnder name value entries))) := by
  have first := nodup_putUnder different name value
  have second := nodup_putUnder different name' value'
  apply of_perm
  apply perm_of_mem_iff (nodup_putUnder second name value) (nodup_putUnder first name' value')
  intro entry
  rw [mem_putUnder_putUnder differ different, mem_putUnder_putUnder differ.symm different,
    or_left_comm, and_comm (a := entry.1 ≠ .text name)]

/-- Mappings stay rearranged where rearranged values are put under a name. -/
theorem putUnder (arranged : Rearranged (.mapping entries) (.mapping others))
    (inside : Rearranged value value') (different : (entries.map Prod.fst).Nodup) (name : Text) :
    Rearranged (.mapping (putUnder name value entries))
      (.mapping (putUnder name value' others)) := by
  cases arranged with
  | leaf plain => contradiction
  | mapping inner values order =>
    -- The partner of each entry stays, but for the entry that the name has now.
    refine .mapping (fun entry => if entry.1.text? = some name then value' else inner entry) ?_ ?_
    · intro entry member
      rcases (mem_putUnder different).mp member with rfl | ⟨old, other⟩
      · have named : (Value.text name).text? = some name := rfl
        rw [if_pos named]
        exact inside
      · rw [if_neg fun same => other (Value.text?_eq_some.mp same)]
        exact values entry old
    · rw [map_putUnder different]
      apply perm_putUnder order
      rw [List.map_map]
      exact different

/-- The entries of rearranged values are rearranged. -/
theorem entries_getD (arranged : Rearranged value value') :
    Rearranged (.mapping (value.entries?.getD [])) (.mapping (value'.entries?.getD [])) := by
  cases arranged with
  | leaf plain => exact refl _
  | mapping inner values order => exact .mapping inner values order

/-- The entries under a name of rearranged mappings are rearranged. -/
theorem entriesUnder (arranged : Rearranged (.mapping entries) (.mapping others))
    (different : (entries.map Prod.fst).Nodup) (name : Text) :
    Rearranged (.mapping (entriesUnder name entries)) (.mapping (entriesUnder name others)) := by
  have different' : (others.map Prod.fst).Nodup := arranged.perm_keys.nodup_iff.mp different
  by_cases known : Value.text name ∈ entries.map Prod.fst
  · obtain ⟨⟨key, value⟩, member, rfl⟩ := List.mem_map.mp known
    cases arranged with
    | leaf plain => contradiction
    | mapping inner values order =>
      have partner := order.mem_iff.mp
        (List.mem_map_of_mem (f := fun entry => (entry.1, inner entry)) member)
      rw [entriesUnder_of_mem different member, entriesUnder_of_mem different' partner]
      exact (values _ member).entries_getD
  · have unknown : Value.text name ∉ others.map Prod.fst :=
      fun member => known (arranged.perm_keys.mem_iff.mpr member)
    rw [entriesUnder_of_not_mem known, entriesUnder_of_not_mem unknown]
    exact refl _

/-- Rearranged mappings stay so under an assignment. -/
theorem assignUnder (arranged : Rearranged (.mapping entries) (.mapping others))
    (tree : (Value.mapping entries).Keeps .distinct) (text : Text) (names : List Text) :
    Rearranged (.mapping (assignUnder text names entries))
      (.mapping (assignUnder text names others)) := by
  induction names generalizing entries others with
  | nil => exact arranged
  | cons name names ih =>
    rw [assignUnder_cons, assignUnder_cons]
    apply arranged.putUnder _ tree.keys
    by_cases last : names = []
    · subst last
      exact refl (.text text)
    · rw [placed_of_ne_nil text last, placed_of_ne_nil text last]
      exact ih (arranged.entriesUnder tree.keys name) (tree.entriesUnder name)

/-- Assignments to incomparable places can be carried out in either order. -/
theorem assignUnder_comm (apart : Incomparable names names') (text text' : Text)
    (tree : (Value.mapping entries).Keeps .distinct) :
    Rearranged
      (.mapping (Stencil.assignUnder text names (Stencil.assignUnder text' names' entries)))
      (.mapping (Stencil.assignUnder text' names' (Stencil.assignUnder text names entries))) := by
  induction names generalizing names' entries with
  | nil => exact absurd rfl apart.ne_nil
  | cons name names ih =>
    obtain ⟨name', names', rfl⟩ := List.exists_cons_of_ne_nil apart.symm.ne_nil
    rw [assignUnder_cons, assignUnder_cons, assignUnder_cons, assignUnder_cons]
    by_cases same : name = name'
    · subst same
      -- Both lead into the mapping under the name, where they are incomparable again.
      have behind : Incomparable names names' :=
        (incomparable_cons.mp apart).resolve_left fun differ => differ rfl
      have more : names ≠ [] := behind.ne_nil
      have more' : names' ≠ [] := behind.symm.ne_nil
      simp only [placed_of_ne_nil text more, placed_of_ne_nil text' more', entriesUnder_putUnder,
        putUnder_putUnder, Value.entries?, Option.getD_some]
      exact (refl (.mapping entries)).putUnder (ih behind (tree.entriesUnder name)) tree.keys name
    · rw [entriesUnder_putUnder_of_ne same, entriesUnder_putUnder_of_ne (Ne.symm same)]
      exact putUnder_comm same _ _ tree.keys

end Value.Rearranged

/-! ### Comparing what is rearranged -/

/-- Keys that a comparison tells apart: they are different, and two of them are the same exactly if
they are one. -/
structure ToldApart (keys : List Value) : Prop where
  /-- No key occurs twice. -/
  nodup : keys.Nodup
  /-- Each key is the same as itself. -/
  reflexive : ∀ key ∈ keys, Value.same key key = .ok true
  /-- A key is not the same as another one. -/
  differs : ∀ key ∈ keys, ∀ other ∈ keys, key ≠ other → Value.same key other = .ok false

/-- A text is the same as a value exactly if the value is that text. -/
theorem Value.text_same (key : Text) (other : Value) :
    same (.text key) other = .ok (other.text? == some key) := by
  cases other with
  | text content => rw [same, sameBy, text?, Option.some_beq_some, Bool.beq_comm]
  | _ => simp [same, sameBy, ObjectTest.apart, equalNumbers, number?, text?]

/-- A name that is not among keys is told apart from them. -/
theorem ToldApart.snoc {keys : List Value} {name : Text} (apart : ToldApart keys)
    (new : Value.text name ∉ keys) : ToldApart (keys ++ [.text name]) := by
  have unnamed : ∀ key ∈ keys, (key.text? == some name) = false := by
    intro key member
    apply beq_false_of_ne
    intro same
    rw [Value.text?_eq_some.mp same] at member
    exact new member
  refine ⟨TreeRule.distinct.snoc apart.nodup new, ?_, ?_⟩
  · intro key member
    rcases List.mem_append.mp member with known | last
    · exact apart.reflexive key known
    · rw [List.mem_singleton.mp last, Value.same_text]
      simp [Value.text?]
  · intro key member other member' different
    rcases List.mem_append.mp member with known | last
    · rcases List.mem_append.mp member' with known' | last'
      · exact apart.differs key known other known' different
      · rw [List.mem_singleton.mp last', Value.same_text, unnamed key known]
    · rw [List.mem_singleton.mp last] at different ⊢
      rcases List.mem_append.mp member' with known' | last'
      · rw [Value.text_same, unnamed other known']
      · exact absurd (List.mem_singleton.mp last').symm different

/-- The keys of each mapping are told apart, and a value that is no mapping is the same as
itself. -/
def TreeRule.comparable : TreeRule where
  keys := ToldApart
  leaf value := Value.same value value = .ok true
  empty := ⟨List.nodup_nil, fun _ member => absurd member List.not_mem_nil,
    fun _ member => absurd member List.not_mem_nil⟩
  snoc apart new := apart.snoc new
  text content := by simp [Value.same, Value.sameBy]

/-- Keys that are told apart are different, throughout a tree. -/
theorem Value.Keeps.distinct {value : Value} (tree : value.Keeps .comparable) :
    value.Keeps .distinct := by
  induction tree with
  | mapping keys _ ih => exact .mapping keys.nodup ih
  | leaf plain _ => exact .leaf plain trivial

/-- A search finds the value of the entry whose key passes, if no other key does. -/
theorem first_entry_of_mem {test : Value → Except Fault Bool} {key value : Value}
    {entries : List (Value × Value)} (different : (entries.map Prod.fst).Nodup)
    (member : (key, value) ∈ entries) (passes : test key = .ok true)
    (others : ∀ entry ∈ entries, entry.1 ≠ key → test entry.1 = .ok false) :
    firstPassing? test entries = .ok (some value) := by
  induction entries with
  | nil => exact absurd member List.not_mem_nil
  | cons first rest ih =>
    obtain ⟨here, behind⟩ := List.forall_mem_cons.mp others
    obtain ⟨key', value'⟩ := first
    rcases List.mem_cons.mp member with same | member
    · obtain ⟨rfl, rfl⟩ := Prod.mk.inj same
      rw [firstPassing?, passes]
      rfl
    · have other : key ≠ key' := ne_of_nodup_cons different member
      rw [List.map_cons, List.nodup_cons] at different
      rw [firstPassing?, here other.symm]
      exact ih different.2 member behind

/-- Entries are within others if each has a partner there, with the same value. -/
theorem entriesWithin_of_partners {entries others : List (Value × Value)}
    (partner : Value × Value → Value)
    (found : ∀ entry ∈ entries,
      firstPassing? (fun key => Value.same entry.1 key) others = .ok (some (partner entry)))
    (same : ∀ entry ∈ entries, Value.same entry.2 (partner entry) = .ok true) :
    entriesWithin .apart entries others = .ok true := by
  induction entries with
  | nil => rw [entriesWithin]
  | cons entry rest ih =>
    obtain ⟨found_here, found_behind⟩ := List.forall_mem_cons.mp found
    obtain ⟨same_here, same_behind⟩ := List.forall_mem_cons.mp same
    obtain ⟨key, value⟩ := entry
    have searched : firstPassing? (fun other => Value.sameBy .apart key other) others =
        .ok (some (partner (key, value))) := found_here
    rw [entriesWithin, searched]
    change (Value.same value (partner (key, value)) >>= _) = _
    rw [same_here]
    exact ih found_behind same_behind

/-- Where the keys and values of a tree can be compared, it is equal to every rearranged one. -/
theorem Value.Rearranged.same {value value' : Value} (arranged : value.Rearranged value')
    (tree : value.Keeps .comparable) : Value.same value value' = .ok true := by
  induction arranged with
  | leaf plain =>
    cases tree with
    | mapping => contradiction
    | leaf _ reflexive => exact reflexive
  | @mapping entries others inner values order ih =>
    have keys := (Value.Rearranged.mapping inner values order).perm_keys
    have counted : entries.length = others.length := by simpa using order.length_eq
    have apart : ToldApart (entries.map Prod.fst) := tree.keys
    rw [Value.same, Value.sameBy, if_pos counted]
    apply entriesWithin_of_partners inner
    · intro entry member
      have known : entry.1 ∈ entries.map Prod.fst := List.mem_map_of_mem member
      apply first_entry_of_mem (keys.nodup_iff.mp apart.nodup)
        (order.mem_iff.mp (List.mem_map_of_mem member)) (apart.reflexive entry.1 known)
      intro other among different
      have known' : other.1 ∈ entries.map Prod.fst := keys.mem_iff.mpr (List.mem_map_of_mem among)
      exact apart.differs entry.1 known other.1 known' different.symm
    · intro entry member
      exact ih entry member (tree.of_mem member)

end Stencil
