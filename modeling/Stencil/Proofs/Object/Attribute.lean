import Stencil.Object.State
import Stencil.Proofs.Outcome

/-!
# Attributes of values

An attribute of a value is there, is missing, or fails to be read: `State.attribute?` tells which, and
agrees with reading it (`State.attribute?_eq_ok_some`, `State.attribute?_eq_ok_none`).
-/
namespace Stencil

/-- The value found for a name is in the entries. -/
theorem exists_mem_of_lookup {α : Type} {entries : List (Text × α)} {name : Text} {found : α}
    (looked_up : entries.lookup name = some found) : ∃ entry ∈ entries, entry.2 = found := by
  obtain ⟨before, after, rfl, -⟩ := List.lookup_eq_some_iff.mp looked_up
  exact ⟨_, List.mem_append_right before List.mem_cons_self, rfl⟩

/-- A member found for a class is a member of one of the classes of the world. -/
theorem World.exists_mem_of_declared? {world : World} {type name owner : Text} {member : ClassMember}
    (found : world.declared? type name = some (owner, member)) :
    ∃ info ∈ world.classes, ∃ own ∈ info.members, own.2 = member := by
  obtain ⟨info, along, own⟩ := List.exists_of_findSome?_eq_some found
  have known : info ∈ world.classes := by
    rw [World.lineage] at along
    split at along
    · obtain ⟨name, -, found⟩ := List.mem_filterMap.mp along
      exact List.mem_of_find?_eq_some found
    · contradiction
  obtain ⟨held, looked_up, same⟩ := Option.map_eq_some_iff.mp own
  obtain ⟨-, rfl⟩ := Prod.mk.inj same
  exact ⟨info, known, exists_mem_of_lookup looked_up⟩

namespace State

variable {state : State} {value result : Value} {name : Text} {fault : Fault}

/-- What a value lacks is missing. -/
theorem isA_lacks (state : State) (value : Value) (name : Text) :
    (state.lacks value name).isA missingClass = true := by
  unfold lacks
  split <;> exact Fault.isA_of_kind rfl

/-- Where there is an attribute, reading it comes to what it comes to. -/
theorem readAttribute_of_found {outcome : Except Fault Value}
    (found : state.found? value name = some outcome) : state.readAttribute value name = outcome := by
  rw [readAttribute, found]
  rfl

/-- Where there is none, it is lacking. -/
theorem readAttribute_of_lacking (lacking : state.found? value name = none) :
    state.readAttribute value name = .error (state.lacks value name) := by
  rw [readAttribute, lacking]
  rfl

/-- An attribute is there exactly if it is read. -/
theorem attribute?_eq_ok_some :
    state.attribute? value name = .ok (some result) ↔
      state.readAttribute value name = .ok result := by
  rw [attribute?]
  cases state.readAttribute value name with
  | ok own => simp
  | error fault =>
    dsimp only
    split <;> simp

/-- An attribute is missing exactly if reading it ends with a fault that says so. -/
theorem attribute?_eq_ok_none :
    state.attribute? value name = .ok none ↔
      ∃ fault, state.readAttribute value name = .error fault ∧ fault.isA missingClass = true := by
  rw [attribute?]
  cases state.readAttribute value name with
  | ok own => simp
  | error fault =>
    dsimp only
    split <;> simp [*]

/-- What a value has of its own is read. -/
theorem readAttribute_of_own {outcome : Except Fault Value}
    (own : state.ownAttribute? value name = some outcome) :
    state.readAttribute value name = outcome :=
  readAttribute_of_found (by rw [found?, own, Option.some_or])

/-- A class shows what its members are for it. -/
theorem readAttribute_type {type owner : Text} {member : ClassMember}
    (declared : state.world.declared? type name = some (owner, member)) :
    state.readAttribute (.type type) name = .ok (member.ofClass owner name type) :=
  readAttribute_of_own (by rw [ownAttribute?, declared]; rfl)

/-- An object shows what a member of its class is for it, unless that is a property or the object has
an attribute of the name itself. -/
theorem readAttribute_object {reference : Nat} {object : Instance} {type owner : Text}
    {member : ClassMember} (here : state.object? reference = some object)
    (typed : object.type = .declared type)
    (declared : state.world.declared? type name = some (owner, member))
    (unhidden : object.attributes.lookup name = none)
    (no_property : ∀ property, member ≠ .property property) :
    state.readAttribute (.object reference) name = .ok (member.ofObject owner name type reference) := by
  refine readAttribute_of_own ?_
  rw [ownAttribute?, here, Option.bind_some, objectAttribute?, typed]
  dsimp only
  rw [declared, unhidden]
  cases member with
  | property property => exact absurd rfl (no_property property)
  | _ => rfl

/-- Where no property is declared under a name, an attribute of that name is read or lacking. -/
theorem isA_of_readAttribute_eq_error
    (plain : ∀ type owner property,
      state.world.declared? type name ≠ some (owner, .property property))
    (failed : state.readAttribute value name = .error fault) : fault.isA missingClass = true := by
  cases found : state.found? value name with
  | none =>
    rw [readAttribute_of_lacking found] at failed
    exact Except.error.inj failed ▸ state.isA_lacks value name
  | some outcome =>
    rw [readAttribute_of_found found] at failed
    subst failed
    have own : state.ownAttribute? value name = some (.error fault) := by
      rw [found?] at found
      cases here : state.ownAttribute? value name with
      | some outcome =>
        rw [here] at found
        exact found
      | none =>
        rw [here] at found
        obtain ⟨shown, added, same⟩ := Option.map_eq_some_iff.mp found
        cases same
    cases value with
    | object reference =>
      obtain ⟨object, -, comes⟩ := Option.bind_eq_some_iff.mp own
      unfold objectAttribute? at comes
      dsimp only at comes
      have not_own : (object.attributes.lookup name).map Except.ok ≠
          some (.error fault : Except Fault Value) := by
        cases object.attributes.lookup name <;> simp
      split at comes
      · exact absurd comes not_own
      · split at comes
        · next declared => exact absurd declared (plain _ _ _)
        · cases Option.some.inj comes
        · exact absurd comes not_own
    | member | type =>
      obtain ⟨shown, held, same⟩ := Option.map_eq_some_iff.mp own
      cases same
    | _ => contradiction

/-- Where there is no attribute, it is missing. -/
theorem attribute?_of_lacking (lacking : state.found? value name = none) :
    state.attribute? value name = .ok none :=
  attribute?_eq_ok_none.mpr ⟨_, readAttribute_of_lacking lacking, state.isA_lacks value name⟩

end State
end Stencil
