import Stencil.Proofs.KeyPath.Collection

/-!
# Operators over what a path leads to

Where a path leads from each item of a collection to a value, an operator before the path makes of
the collection what it makes of these values (`State.resolve_operatorPath`).
-/
namespace Stencil

/-- A path behind an operator. -/
def operatorPath (operator path : Text) : Text := '@' :: operator ++ "." ++ path

section Operators

variable {state : State} {value : Value} {items found : List Value} {path name : Text}
  {operator : Aggregate}

/-- The name of an operator has no point. -/
theorem Aggregate.no_point (named : Aggregate.ofName? name = some operator) : '.' ∉ name := by
  unfold Aggregate.ofName? at named
  repeat
    split at named
    · next is_name =>
      rw [is_name]
      decide
  contradiction

/-- The components of a path behind an operator are the operator and those of the path. -/
theorem splitOn_operatorPath (named : Aggregate.ofName? name = some operator) (path : Text) :
    Text.splitOn "." (operatorPath name path) = ('@' :: name) :: Text.splitOn "." path := by
  have no_point : '.' ∉ '@' :: name := by
    rw [List.mem_cons, not_or]
    exact ⟨by decide, Aggregate.no_point named⟩
  exact Text.splitFrom_append no_point [] path

/-- What a path leads to from each item is what its components lead to. -/
theorem State.mapM_follow_eq_ok
    (each : List.Forall₂ (fun item one => state.resolvePath item path = .ok one) items found) :
    items.mapM (state.follow (Text.splitOn "." path)) = .ok found :=
  mapM_eq_ok.mpr (each.imp fun _ _ leads => (State.resolvePath_eq_ok.mp leads).2)

/-- An operator before a path makes of a collection what it makes of the values that the path leads
to. -/
theorem State.resolve_operatorPath (named : Aggregate.ofName? name = some operator)
    (follows : operator ≠ .count) (held : value.items? = some items)
    (filled : [] ∉ Text.splitOn "." path)
    (each : List.Forall₂ (fun item one => state.resolvePath item path = .ok one) items found) :
    state.resolve value (operatorPath name path) =
      (state.aggregate found operator).mapError (operatorFailure operator name) := by
  have components : Text.splitOn "." (operatorPath name path) =
      ('@' :: name) :: Text.splitOn "." path := splitOn_operatorPath named path
  have filled_whole : [] ∉ Text.splitOn "." (operatorPath name path) := by
    rw [components]
    exact List.not_mem_cons_of_ne_of_not_mem (List.cons_ne_nil _ _).symm filled
  have more : Text.splitOn "." path ≠ [] := Text.splitFrom_ne_nil _ _ _ _
  rw [State.resolve_of_filled filled_whole, components, State.follow_operator named follows held more,
    State.mapM_follow_eq_ok each]
  rfl

/-- Where the operator makes a value of them, the path leads to this value. -/
theorem State.resolvePath_operatorPath {result : Value}
    (named : Aggregate.ofName? name = some operator) (follows : operator ≠ .count)
    (held : value.items? = some items) (filled : [] ∉ Text.splitOn "." path)
    (each : List.Forall₂ (fun item one => state.resolvePath item path = .ok one) items found)
    (computed : state.aggregate found operator = .ok result) :
    state.resolvePath value (operatorPath name path) = .ok result := by
  rw [State.resolvePath, State.resolve_operatorPath named follows held filled each, computed]
  rfl

end Operators

/-! ### Given values -/

/-- A list of objects that answer look-ups themselves, each with one of some values for `x`. -/
def holders (values : List Value) : Value :=
  .list (values.map fun value => .keyed 0 .key [("x", value)])

/-- Any values are what a path leads to from the items of a list. -/
theorem holders_lead (state : State) (values : List Value) :
    ∃ items, (holders values).items? = some items ∧
      [] ∉ Text.splitOn "." "x" ∧
      List.Forall₂ (fun item one => state.resolvePath item "x" = .ok one) items values := by
  have components : Text.splitOn "." "x" = (["x"] : List Text) := rfl
  have filled : [] ∉ Text.splitOn "." "x" := by
    rw [components]
    decide
  refine ⟨_, rfl, filled, List.forall₂_map_left_iff.mpr (List.forall₂_same.mpr fun value _ => ?_)⟩
  rw [State.resolvePath_eq_ok, components]
  exact ⟨by decide, rfl⟩

end Stencil
