import Stencil.Operation.Call

/-!
# Comparisons

An object is compared with a value as its class says, if its class says anything: by a method that
answers, fails, or leaves the answer to the other side. A comparison changes nothing.
-/
namespace Stencil

/-- Whether a value counts as true. -/
def Value.isTrue : Value → Bool
  | .nothing => false
  | .flag truth => truth
  | .int number => number ≠ 0
  | .double (.finite _ significand _) => significand ≠ 0
  | .decimal (.finite _ coefficient _) => coefficient ≠ 0
  | .text content => !content.isEmpty
  | .bytes content => !content.isEmpty
  | .list items | .tuple items | .set items => !items.isEmpty
  | .mapping entries => !entries.isEmpty
  | _ => true

/-- The name of the method that compares objects. -/
def comparisonName : Text := "__eq__"

namespace State

/-- Whether the class of an object says that it equals a value, if it decides that. -/
def decideEqual (state : State) (value other : Value) : Except Fault (Option Bool) :=
  match state.special? value comparisonName with
  | none => .ok none
  | some special => do
    match ← ((state.attributeOf special).callSpecial [other] state).1 with
    | .routine held => return if held = .undecided then none else some true
    | answer => return some answer.isTrue

/-- Whether a value is an object of another class than a second object, and of one that inherits from
that class. -/
def isNarrower (state : State) (value other : Value) : Bool :=
  match value, other with
  | .object reference, .object other =>
    match state.declaredType? reference, state.declaredType? other with
    | some type, some wider => type ≠ wider && state.isInstance value wider
    | _, _ => false
  | _, _ => false

/-- Whether an object and another value are equal: the narrower class decides first, or else that of
the first value; without a decision they are not. -/
def objectTest (state : State) : ObjectTest := fun a b => do
  let (first, second) := if state.isNarrower b a then (b, a) else (a, b)
  match ← state.decideEqual first second with
  | some truth => return truth
  | none => return (← state.decideEqual second first).getD false

/-- Whether two values are the same object or equal. -/
def same (state : State) (a b : Value) : Except Fault Bool := Value.sameBy state.objectTest a b

end State
end Stencil
