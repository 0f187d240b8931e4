import Stencil.Operation.Resolution

/-!
# Signatures

What an operation expects for each of its arguments: the annotation of the parameter that receives
the argument, evaluated together with its neighbours if all of them can be, and alone otherwise.
-/
namespace Stencil

/-- What a callable shows of its parameters. -/
structure Signature where
  /-- All parameters that it shows, in order. -/
  shown : List Parameter
  /-- Those among them that arguments can reach. -/
  parameters : List Parameter
  /-- All annotations that belong together: those of all parameters of the method, and of its
  result. -/
  annotations : List (Text × Annotated)

namespace Method

/-- Whether a method receives what it belongs to as its first argument. -/
def takesOwner (method : Method) : Bool := method.kind ≠ .free

/-- The parameters of a kind. -/
def ofKind (method : Method) (kind : ParameterKind) : List Parameter :=
  method.parameters.filter fun parameter => parameter.kind == kind

/-- The parameters in the order in which their annotations are kept: those that are reached by
position or name come before those that are reached by position only. -/
def annotationOrder (method : Method) : List Parameter :=
  method.ofKind .positional ++ method.ofKind .positionalOnly ++ method.ofKind .rest ++
    method.ofKind .keywordOnly ++ method.ofKind .keywordRest

/-- The annotations of a method, the one of its result last. -/
def annotations (method : Method) : List (Text × Annotated) :=
  (method.annotationOrder.filterMap fun parameter =>
      parameter.annotation.map fun annotated => (parameter.name, annotated)) ++
    (method.result.map fun annotated => (("return" : Text), annotated)).toList

/-- The signature of a method as a function. -/
def openSignature (method : Method) : Signature :=
  ⟨method.parameters, method.parameters, method.annotations⟩

/-- The parameters that are left when the first argument is given: a parameter that takes all
arguments stays, and one that takes none by position cannot be given it. -/
def boundParameters? (method : Method) : Option (List Parameter) :=
  match method.parameters with
  | [] => none
  | first :: others =>
    match first.kind with
    | .positional | .positionalOnly => some others
    | .rest => some (first :: others)
    | .keywordOnly | .keywordRest => none

/-- The signature of a method that is bound to what it belongs to, if it can be. -/
def boundSignature? (method : Method) : Option Signature :=
  method.boundParameters?.map fun parameters => ⟨parameters, parameters, method.annotations⟩

end Method

/-- What stands at an attribute of a target. -/
inductive Attribute
  /-- A method bound to its receiver. -/
  | bound (receiver : Value) (method : Method)
  /-- A method as a function. -/
  | free (method : Method)
  /-- A predefined routine, and the parameters that it shows. -/
  | predefined (routine : Routine) (parameters? : Option (List Parameter))
  /-- A class. -/
  | constructor (type : Text)
  /-- Another value. -/
  | plain (value : Value)

/-- What a routine is bound to, as a value. -/
def Holder.value : Holder → Value
  | object reference => .object reference
  | type name => .type name

namespace State

/-- What a routine is when it is called. -/
def routineAttribute (state : State) (routine : Routine) : Attribute :=
  match state.world.method? routine, routine.kind, routine.holder with
  | some method, .method, some holder => .bound holder.value method
  | some method, .function, _ => .free method
  | _, .predefined, _ => .predefined routine (state.world.language.parameters? routine)
  | _, _, _ => .plain (.routine routine)

/-- What the class of an object has for the object under a name, whatever the object has itself. -/
def special? (state : State) (value : Value) (name : Text) : Option Value :=
  match value with
  | .object reference => do
    let type ← state.declaredType? reference
    let (owner, member) ← state.world.declared? type name
    return member.ofObject owner name type reference
  | _ => none

/-- What a value is when it is called: an object is called by a method of its class. -/
def attributeOf (state : State) (value : Value) : Attribute :=
  match value with
  | .routine held => state.routineAttribute held
  | .type type => .constructor type
  | value =>
    match state.special? value "__call__" with
    | some (.routine held) => state.routineAttribute held
    | _ => .plain value

/-- What stands at an attribute of a target, as it can be called. -/
def callee (state : State) (target : Value) (name : Text) : Except Fault Attribute :=
  (state.readAttribute target name).map state.attributeOf

end State

/-- The signature of what stands at an attribute, if it shows one. Predefined routines say nothing of
what their parameters expect; classes and other values are taken to show no signature. -/
def Attribute.signature? : Attribute → Option Signature
  | bound _ method => method.boundSignature?
  | free method => some method.openSignature
  | predefined _ parameters? => parameters?.map fun parameters => ⟨parameters, parameters, []⟩
  | _ => none

/-- Whether what stands at an attribute is a method as a function that has to be given what it
belongs to. -/
def Attribute.takesReceiver : Attribute → Bool
  | free method => method.takesOwner
  | _ => false

/-- The signature of an operation that is carried out by an attribute, without the first parameter
where a new object will be the first argument. -/
def ResolvedOperation.signature? (resolved : ResolvedOperation) (callee : Attribute) :
    Option Signature :=
  let withoutFirst := fun signature : Signature =>
    { signature with parameters := signature.parameters.drop 1 }
  match resolved.kind with
  | .construct => callee.signature?.map withoutFirst
  | .initializer =>
    if callee.takesReceiver then callee.signature?.map withoutFirst else callee.signature?
  | _ => callee.signature?

/-- What a parameter expects, its annotation read alone. -/
def Parameter.alone (parameter : Parameter) (scope : Scope) : Except Fault Expected :=
  match parameter.annotation with
  | some annotated => annotated.alone scope
  | none => .ok (.plain .unspecified)

namespace Signature

/-- The annotations of a signature in the scope of functions. -/
def placed (signature : Signature) (scope : Scope) : List (Text × PlacedAnnotation) :=
  signature.annotations.map fun (name, annotated) => (name, ⟨annotated, scope, scope⟩)

/-- What each parameter that is shown expects, its annotation read alone. -/
def expectationsApart (signature : Signature) (scope : Scope) :
    Except Fault (List (Text × Expected)) :=
  signature.shown.mapM fun parameter =>
    (parameter.alone scope).map fun expected => (parameter.name, expected)

/-- What each parameter expects: the annotations are evaluated together, or each one alone if they
cannot be. -/
def expectations (signature : Signature) (scope : Scope) : Outcome (List (Text × Expected)) :=
  match references (signature.placed scope) with
  | .ok expectations => .ok expectations
  | .error fault =>
    if fault.isRecoverable then (signature.expectationsApart scope).mapError .escaped
    else .error (.escaped fault)

/-- What each of so many arguments is expected to be: what the parameter that receives it says. -/
def argumentTypes (signature : Signature) (scope : Scope) (name : Text) (count : Nat) :
    Outcome (List Expected) := do
  let expectations ← signature.expectations scope
  let expectation := fun parameter : Parameter =>
    (expectations.lookup parameter.name).getD (.plain .unspecified)
  let positional := signature.parameters.filter fun parameter => parameter.kind.isPositional
  let rest? := signature.parameters.find? fun parameter => parameter.kind == .rest
  let required := positional.filter fun parameter => parameter.default.isNone
  if count < required.length || (positional.length < count && rest?.isNone) then
    .error (.invocation name (.argumentCount positional.length count))
  else
    let surplus := (rest?.map expectation).getD .any
    return (positional.take count).map expectation ++
      List.replicate (count - positional.length) surplus

end Signature

/-- What an attribute of a class expects: what its annotation says, evaluated together with the
others or alone, or else any value. -/
def World.attributeType (world : World) (type field : Text) : Outcome Expected := do
  let types ← world.knownAttributeTypes type
  match types.lookup field with
  | some expected => return expected
  | none =>
    let placed? := (world.lineage type).findSome? fun info =>
      ((world.placed info).lookup field).filter fun placed => !placed.annotated.isBareNothing
    match placed? with
    | some placed => placed.alone.mapError .escaped
    | none => return .any

/-- What each of so many arguments of an operation on a target is expected to be. -/
def Convention.argumentTypes (convention : Convention) (state : State) (target : Value)
    (name : Text) (count : Nat) : Outcome (List Expected) := do
  let resolved ← convention.resolve state target name
  match resolved.kind with
  | .assign =>
    if count ≠ 1 then .error (.invocation name (.assignmentCount count))
    else
      match state.targetClass? target with
      | some type => return [← state.world.attributeType type resolved.field]
      | none => return [.any]
  | _ => do
    let callee ← (state.callee target resolved.field).mapError .escaped
    match resolved.signature? callee with
    | some signature => signature.argumentTypes (state.world.scope .outside) name count
    | none => return List.replicate count .any

end Stencil
