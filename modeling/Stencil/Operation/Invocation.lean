import Stencil.Operation.Call

/-!
# Invocation

An operation is carried out on a target: an object is constructed or initialized, a method is
called, or an attribute is set. A fault on the way is reported with the operation's name; failures
of the library are passed on.
-/
namespace Stencil

/-- A failure, or a result, with the state it leaves. -/
abbrev Transition (α : Type) := State → Outcome α × State

/-- The failure that a fault is while an operation is carried out: errors are reported with the
operation, except those of the library, which are passed on as they are. -/
def operationFailure (name : Text) (fault : Fault) : Failure :=
  if fault.isA "Exception" && !fault.isA "SockitError" then .invocation name (.failed fault)
  else .ofFault fault

/-- Carry out an operation that has been resolved. -/
def ResolvedOperation.perform (resolved : ResolvedOperation) (target : Value)
    (arguments : List Value) : Action Value := fun state =>
  match resolved.kind, target with
  | .construct, .type type => construct type arguments state
  | .initializer, .type type =>
    match makeObject type [] state with
    | (.error fault, state) => (.error fault, state)
    | (.ok made, state) =>
      match state.callee made resolved.field with
      | .error fault => (.error fault, state)
      | .ok callee =>
        match callee.call arguments state with
        | (.ok .nothing, state) => (.ok made, state)
        | other => other
  | .assign, target =>
    match arguments with
    | [] => (.error .outOfRange, state)
    | value :: _ =>
      match State.assign target resolved.field value state with
      | (.ok (), state) => (.ok .nothing, state)
      | (.error fault, state) => (.error fault, state)
  | _, target =>
    match state.callee target resolved.field with
    | .error fault => (.error fault, state)
    | .ok callee => callee.call arguments state

/-- Carry out an operation on a target. -/
def Convention.invoke (convention : Convention) (target : Value) (name : Text)
    (arguments : List Value) : Transition Value := fun state =>
  match convention.resolve state target name with
  | .error failure => (.error failure, state)
  | .ok resolved =>
    let (arguments, state) := state.identifyAll arguments
    match resolved.perform target arguments state with
    | (.ok value, state) => (.ok value, state)
    | (.error fault, state) => (.error (operationFailure name fault), state)

/-- What looks operations up and carries them out. -/
structure Invoker where
  /-- What each of so many arguments of an operation on a target is expected to be. -/
  argumentTypes : Value → Text → Nat → Transition (List Expected)
  /-- Carry out an operation on a target. -/
  invoke : Value → Text → List Value → Transition Value

/-- Operations are found by declaration and convention. -/
def Convention.invoker (convention : Convention) : Invoker where
  argumentTypes target name count state :=
    (convention.argumentTypes state target name count, state)
  invoke := convention.invoke

end Stencil
