import Stencil.KeyPath
import Stencil.Proofs.Outcome
import Stencil.Proofs.Text

/-!
# Key paths into mappings

A key without dot that is neither private nor an operator leads from a mapping to the value of the
entry with that name (`State.resolve_ofEntries`).
-/
namespace Stencil

/-- What a text must satisfy to name an entry by itself. -/
structure PlainKey (key : Text) : Prop where
  /-- It is not empty. -/
  filled : key ≠ []
  /-- It is one component. -/
  whole : '.' ∉ key
  /-- It is not private. -/
  unhidden : key.head? ≠ some '_'
  /-- It is no operator. -/
  noOperator : key.head? ≠ some '@'

/-- A value is the same as a text exactly if it is that text. -/
theorem Value.same_text (other : Value) (key : Text) :
    Value.same other (.text key) = .ok (other.text? == some key) := by
  cases other <;>
    simp [Value.same, Value.sameBy, ObjectTest.apart, Value.equalNumbers, Value.number?, Value.text?]

/-- A mapping has for a text what the first entry has whose key is the text. -/
theorem entryOf?_text (key : Text) (entries : List (Value × Value)) :
    entryOf? (.text key) entries =
      .ok ((entries.find? fun entry => entry.1.text? == some key).map Prod.snd) := by
  induction entries with
  | nil => rfl
  | cons entry rest ih =>
    obtain ⟨other, value⟩ := entry
    rw [entryOf?] at ih ⊢
    rw [firstPassing?, Value.same_text, List.find?_cons, ih]
    cases other.text? == some key <;> rfl

/-- A mapping from texts has for a text what its entries have. -/
theorem entryOf?_ofEntries (entries : List (Text × Value)) (key : Text) :
    entryOf? (.text key) (entries.map fun (name, value) => (Value.text name, value)) =
      .ok (entries.lookup key) := by
  induction entries with
  | nil => rfl
  | cons entry rest ih =>
    obtain ⟨name, value⟩ := entry
    rw [entryOf?] at ih ⊢
    rw [List.map_cons, firstPassing?, Value.same_text, ih, List.lookup_cons]
    change (if name == key then _ else _) = _
    rw [Bool.beq_comm (a := name)]
    cases key == name <;> rfl

/-- A plain key is not private. -/
theorem PlainKey.not_startsWith {key : Text} (plain : PlainKey key) :
    key.startsWith "_" = false := by
  cases key with
  | nil => rfl
  | cons char rest =>
    have other : '_' ≠ char := fun same => plain.unhidden (congrArg some same.symm)
    change ('_' == char && _) = false
    rw [beq_false_of_ne other, Bool.false_and]

/-- A plain key reads its entry from a mapping. -/
theorem State.valueForKey_ofEntries (state : State) {key : Text} (plain : PlainKey key)
    {entries : List (Text × Value)} {value : Value} (found : entries.lookup key = some value) :
    state.valueForKey key (.ofEntries entries) = .ok value := by
  rw [State.valueForKey, plain.not_startsWith]
  simp only [Bool.false_eq_true, ↓reduceIte, Value.ofEntries, State.read, mappingValue,
    entryOf?_ofEntries, found]

/-- A plain key is a path that leads from a mapping to the value of its entry. -/
theorem State.resolve_ofEntries (state : State) {key : Text} (plain : PlainKey key)
    {entries : List (Text × Value)} {value : Value} (found : entries.lookup key = some value) :
    state.resolve (.ofEntries entries) key = .ok value := by
  have one_component : Text.splitOn "." key = [key] := Text.splitOn_of_not_mem plain.whole
  have read := state.valueForKey_ofEntries plain found
  obtain ⟨char, rest, rfl⟩ := List.exists_cons_of_ne_nil plain.filled
  have no_operator : char ≠ '@' := fun same => plain.noOperator (congrArg some same)
  rw [State.resolve]
  simp only [one_component, List.isEmpty_cons, Bool.false_eq_true, ↓reduceIte, List.any_cons,
    List.any_nil, Bool.or_false]
  rw [State.follow]
  · rw [read]
    rfl
  · rintro name same
    exact no_operator (List.cons.inj same).1

end Stencil
