import Stencil.CommandLine.Command
import Stencil.Proofs.Assignment.Arrangement
import Stencil.Proofs.KeyPath.Composition

/-!
# Assignments in any order

Assignments to incomparable places can be carried out in any order
(`Value.Rearranged.of_perm_assignments`). Afterwards each key path that was assigned leads to its
text, and all places that are incomparable with the assigned ones have what they had
(`assigned_in_any_order`).
-/
namespace Stencil

open CommandLine (readAssignments)

/-! ### Assignments one after another -/

/-- The entries after assignments were carried out one after another, as they are before data are
rendered. -/
def assigned (assignments : List Assignment) (entries : List (Value × Value)) :
    List (Value × Value) :=
  assignments.foldl (fun entries assignment => assignment.carryOut entries) entries

section Assigned

variable {assignments others : List Assignment} {entries entries' : List (Value × Value)}

/-- Entries keep to a rule under assignments. -/
theorem Value.Keeps.assigned {rule : TreeRule} (tree : (Value.mapping entries).Keeps rule)
    (assignments : List Assignment) :
    (Value.mapping (assigned assignments entries)).Keeps rule := by
  induction assignments generalizing entries with
  | nil => exact tree
  | cons assignment rest ih => exact ih (tree.assignUnder assignment.text assignment.names)

/-- Rearranged mappings stay so under assignments. -/
theorem Value.Rearranged.assigned
    (arranged : Value.Rearranged (.mapping entries) (.mapping entries'))
    (tree : (Value.mapping entries).Keeps .distinct) (assignments : List Assignment) :
    Value.Rearranged (.mapping (assigned assignments entries))
      (.mapping (assigned assignments entries')) := by
  induction assignments generalizing entries entries' with
  | nil => exact arranged
  | cons assignment rest ih =>
    exact ih (arranged.assignUnder tree assignment.text assignment.names)
      (tree.assignUnder assignment.text assignment.names)

/-- Assignments to incomparable places can be carried out in any order. -/
theorem Value.Rearranged.of_perm_assignments (order : others.Perm assignments)
    (apart : assignments.Pairwise fun assignment other =>
      Incomparable assignment.names other.names)
    (tree : (Value.mapping entries).Keeps .distinct) :
    Value.Rearranged (.mapping (Stencil.assigned others entries))
      (.mapping (Stencil.assigned assignments entries)) := by
  induction order generalizing entries with
  | nil => exact refl _
  | cons assignment _ ih =>
    exact ih (List.pairwise_cons.mp apart).2 (tree.assignUnder assignment.text assignment.names)
  | swap assignment other rest =>
    have incomparable : Incomparable assignment.names other.names :=
      (List.pairwise_cons.mp apart).1 other List.mem_cons_self
    -- The two are exchanged; all others are carried out on what is rearranged already.
    have exchanged := assignUnder_comm incomparable assignment.text other.text tree
    have tree' := tree.assignUnder other.text other.names
    exact exchanged.assigned (tree'.assignUnder assignment.text assignment.names) rest
  | trans first second ih ih' =>
    have apart_first := (second.pairwise_iff fun incomparable => incomparable.symm).mpr apart
    exact (ih apart_first tree).trans (ih' apart tree)

/-- Paths that are incomparable with the places of assignments lead to what they led to before. -/
theorem leadsTo_assigned_apart {path : List Text} {found : Value}
    (apart : ∀ assignment ∈ assignments, Incomparable path assignment.names)
    (tree : (Value.mapping entries).Keeps .distinct) :
    (Value.mapping (assigned assignments entries)).LeadsTo path found ↔
      (Value.mapping entries).LeadsTo path found := by
  induction assignments generalizing entries with
  | nil => exact Iff.rfl
  | cons assignment rest ih =>
    obtain ⟨here, behind⟩ := List.forall_mem_cons.mp apart
    have later := ih behind (tree.assignUnder assignment.text assignment.names)
    exact later.trans (leadsTo_assignUnder_apart assignment.text here tree)

/-- The names of an assignment lead to its text after it was carried out among others to incomparable
places. -/
theorem leadsTo_assigned_of_mem {assignment : Assignment} (among : assignment ∈ assignments)
    (some_name : assignment.names ≠ [])
    (apart : assignments.Pairwise fun assignment other =>
      Incomparable assignment.names other.names)
    (tree : (Value.mapping entries).Keeps .distinct) :
    (Value.mapping (assigned assignments entries)).LeadsTo assignment.names
      (.text assignment.text) := by
  induction assignments generalizing entries with
  | nil => exact absurd among List.not_mem_nil
  | cons first rest ih =>
    obtain ⟨apart_here, apart_behind⟩ := List.pairwise_cons.mp apart
    have tree' := tree.assignUnder first.text first.names
    rcases List.mem_cons.mp among with rfl | behind
    · -- No later assignment reaches its place.
      apply (leadsTo_assigned_apart apart_here tree').mpr
      exact leadsTo_assignUnder_self assignment.text some_name tree
    · exact ih behind apart_behind tree'

end Assigned

/-! ### Reading back -/

section Reading

variable {name : Text} {names : List Text} {value found : Value} {entries : List (Value × Value)}

/-- A name that is not private reads its entry from a mapping. -/
theorem State.valueForKey_of_mem (state : State) (different : (entries.map Prod.fst).Nodup)
    (member : (Value.text name, value) ∈ entries) (unhidden : name.startsWith "_" = false) :
    state.valueForKey name (.mapping entries) = .ok value := by
  have read : entryOf? (.text name) entries = .ok (some value) := by
    apply first_entry_of_mem different member
    · rw [Value.same_text]
      simp [Value.text?]
    · intro entry _ other
      rw [Value.same_text, beq_false_of_ne fun same => other (Value.text?_eq_some.mp same)]
  rw [State.valueForKey, unhidden]
  simp only [Bool.false_eq_true, ↓reduceIte, State.read, mappingValue, read]

/-- Names that are neither private nor operators are followed to where they lead. -/
theorem State.follow_of_leadsTo (state : State) (leads : value.LeadsTo names found)
    (tree : value.Keeps .distinct)
    (plain : ∀ name ∈ names, name.startsWith "_" = false ∧ name.startsWith "@" = false) :
    state.follow names value = .ok found := by
  induction leads with
  | here value => rfl
  | entry member behind ih =>
    obtain ⟨⟨unhidden, no_operator⟩, plain_behind⟩ := List.forall_mem_cons.mp plain
    rw [State.follow_key (ne_operator_of_startsWith no_operator),
      state.valueForKey_of_mem tree.keys member unhidden]
    exact ih (tree.of_mem member) plain_behind

/-- A word with a key and a text is read as the assignment of the text to the components of the
key. -/
theorem mem_of_readAssignments {words : List Text} {assignments : List Assignment}
    (given : readAssignments words = .ok assignments) {word key text : Text} (among : word ∈ words)
    (cut : Text.cutAt '=' word = (key, some text)) :
    ⟨Text.splitOn "." key, text⟩ ∈ assignments := by
  obtain ⟨assignment, member, read⟩ := exists_mem_of_mapM given among
  cases key with
  | nil => simp [Assignment.ofWord?, cut] at read
  | cons char rest =>
    have same : (⟨Text.splitOn "." (char :: rest), text⟩ : Assignment) = assignment := by
      simpa [Assignment.ofWord?, cut] using read
    rw [same]
    exact member

end Reading

/-- Assignments to incomparable places, read from words, can be carried out on a tree of mappings in
any order: the outcomes are rearrangements of each other, and equal where the keys and values of the
tree can be compared. Afterwards each assigned key path whose components are neither empty nor
private nor operators resolves to its text, and each path that is incomparable with the assigned
places leads to what it led to before. -/
theorem assigned_in_any_order {words : List Text} {assignments : List Assignment}
    {entries : List (Value × Value)} (given : readAssignments words = .ok assignments)
    (apart : assignments.Pairwise fun assignment other =>
      Incomparable assignment.names other.names)
    (tree : (Value.mapping entries).Keeps .distinct) :
    (∀ others : List Assignment, others.Perm assignments →
        Value.Rearranged (.mapping (assigned others entries))
            (.mapping (assigned assignments entries)) ∧
          ((Value.mapping entries).Keeps .comparable →
            Value.same (.mapping (assigned others entries))
              (.mapping (assigned assignments entries)) = .ok true)) ∧
      (∀ state : State, ∀ word ∈ words, ∀ key text, Text.cutAt '=' word = (key, some text) →
        (∀ name ∈ Text.splitOn "." key,
          name ≠ [] ∧ name.startsWith "_" = false ∧ name.startsWith "@" = false) →
        state.resolvePath (.mapping (assigned assignments entries)) key = .ok (.text text)) ∧
      ∀ path value, (∀ assignment ∈ assignments, Incomparable path assignment.names) →
        ((Value.mapping (assigned assignments entries)).LeadsTo path value ↔
          (Value.mapping entries).LeadsTo path value) := by
  refine ⟨?_, ?_, ?_⟩
  · intro others order
    have arranged := Value.Rearranged.of_perm_assignments order apart tree
    exact ⟨arranged, fun comparable => arranged.same (comparable.assigned others)⟩
  · intro state word among key text cut plain
    have assigned_here := mem_of_readAssignments given among cut
    have some_name : Text.splitOn "." key ≠ [] := Text.splitFrom_ne_nil _ _ _ _
    have leads := leadsTo_assigned_of_mem assigned_here some_name apart tree
    rw [State.resolvePath_eq_ok]
    refine ⟨fun empty => (plain [] empty).1 rfl, ?_⟩
    exact state.follow_of_leadsTo leads (tree.assigned assignments)
      fun name member => (plain name member).2
  · intro path value incomparable
    exact leadsTo_assigned_apart incomparable tree

/-- A mapping within a mapping, beside a list. -/
def nestedEntries : List (Value × Value) :=
  [(.text "a", .mapping [(.text "b", .int 1), (.int 7, .nothing), (.text "e", .text "kept")]),
    (.text "c", .list [])]

/-- The keys and values of the nested entries can be compared. -/
theorem keeps_nestedEntries : (Value.mapping nestedEntries).Keeps .comparable := by
  have number (n : Int) : Value.same (.int n) (.int n) = .ok true := by
    simp [Value.same, Value.sameBy, Value.equalNumbers, Value.number?, Number.same, Number.equal,
      Number.isSignaling, Number.magnitude?]
  have outer : ToldApart [.text "a", .text "c"] := by
    constructor <;> simp [Value.same, Value.sameBy]
  have inner : ToldApart [.text "b", .int 7, .text "e"] := by
    constructor
    · simp
    · simp [Value.same_text, Value.text?, number]
    · simp [Value.same, Value.sameBy, Value.equalNumbers, Value.number?]
  refine .mapping outer (List.forall_mem_cons.mpr ⟨.mapping inner ?_, ?_⟩)
  · rintro entry (_ | ⟨_, _ | ⟨_, _ | ⟨_, ⟨⟩⟩⟩⟩)
    · exact .leaf rfl (number 1)
    · exact .leaf rfl (by simp [TreeRule.comparable, Value.same, Value.sameBy])
    · exact .text .comparable "kept"
  · rintro entry (_ | ⟨_, ⟨⟩⟩)
    exact .leaf rfl (by simp [TreeRule.comparable, Value.same, Value.sameBy, sameItems])

/-- Two assignments into the mapping and one over the list can be carried out in reverse; they are
read back, and what is beside them is kept. -/
theorem assigned_in_any_order_nested :
    let words : List Text := ["a.b=x", "a.c.d=y", "c=z=z"]
    let assignments : List Assignment :=
      [⟨["a", "b"], "x"⟩, ⟨["a", "c", "d"], "y"⟩, ⟨["c"], "z=z"⟩]
    readAssignments words = .ok assignments ∧
      (assignments.Pairwise fun assignment other =>
        Incomparable assignment.names other.names) ∧
      (Value.mapping nestedEntries).Keeps .distinct ∧
      Value.same (.mapping (assigned assignments.reverse nestedEntries))
        (.mapping (assigned assignments nestedEntries)) = .ok true ∧
      (∀ state : State, state.resolvePath (.mapping (assigned assignments nestedEntries)) "a.c.d" =
        .ok (.text "y")) ∧
      (Value.mapping (assigned assignments nestedEntries)).LeadsTo ["a", "e"] (.text "kept") := by
  intro words assignments
  have given : readAssignments words = .ok assignments := by decide
  have apart : assignments.Pairwise fun assignment other =>
      Incomparable assignment.names other.names := by decide
  have tree : (Value.mapping nestedEntries).Keeps .distinct := keeps_nestedEntries.distinct
  obtain ⟨in_any_order, read_back, kept⟩ := assigned_in_any_order given apart tree
  have among : ("a.c.d=y" : Text) ∈ words := by decide
  have cut : Text.cutAt '=' ("a.c.d=y" : Text) = (("a.c.d" : Text), some ("y" : Text)) :=
    by decide
  have plain : ∀ name ∈ Text.splitOn "." "a.c.d",
      name ≠ [] ∧ name.startsWith "_" = false ∧ name.startsWith "@" = false := by decide
  have beside : ∀ assignment ∈ assignments, Incomparable ["a", "e"] assignment.names := by decide
  have leads : (Value.mapping nestedEntries).LeadsTo ["a", "e"] (.text "kept") :=
    .entry (.head _) (.entry (.tail _ (.tail _ (.head _))) (.here _))
  exact ⟨given, apart, tree, (in_any_order _ (List.reverse_perm _)).2 keeps_nestedEntries,
    fun state => read_back state _ among _ _ cut plain, (kept _ _ beside).mpr leads⟩

end Stencil
