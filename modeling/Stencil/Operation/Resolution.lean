import Stencil.Failure
import Stencil.Object.State
import Stencil.Operation.Name

/-!
# Resolution of operations

An operation is looked for on a target, which is an object or a class: first among the operations
that methods declare, the nearest class and the last declaration counting; then under its
conventional name; and on objects as the assignment to an attribute.
-/
namespace Stencil

/-- How an operation is carried out. -/
inductive OperationKind
  /-- The class makes an object of the arguments. -/
  | construct
  /-- A method is called on a new object. -/
  | initializer
  /-- A method is called. -/
  | call
  /-- An attribute is set. -/
  | assign
deriving DecidableEq, Repr

/-- The word for how an operation is carried out. -/
def OperationKind.word : OperationKind → Text
  | construct => "construct"
  | initializer => "initialize"
  | call => "call"
  | assign => "assign"

/-- The attribute of a target that carries an operation out. -/
structure ResolvedOperation where
  /-- The operation. -/
  name : Text
  /-- How it is carried out. -/
  kind : OperationKind
  /-- The attribute. -/
  field : Text
deriving DecidableEq, Repr

/-- The operation that a member of a class is declared for, whatever kind of method it is, or whatever
else. -/
def ClassMember.operation? : ClassMember → Option Text
  | method member => member.operation.filter fun name => !name.isEmpty
  | shared _ operation => operation.filter fun name => !name.isEmpty
  | _ => none

/-- The operations that a class declares itself, each with the attribute that declares it, in
order. -/
def ClassInfo.declared (info : ClassInfo) : List (Text × Text) :=
  info.members.filterMap fun (field, member) =>
    member.operation?.map fun name => (name, field)

/-- The operations of a class, each with its attribute: those of the farthest class first, and of
two declarations of one operation the later one counts. -/
def World.operationTable (world : World) (type : Text) : List (Text × Text) :=
  Text.lastEntries ((world.lineage type).reverse.flatMap ClassInfo.declared)

/-- The class of the world that a target belongs to: the class itself, or an object's class. -/
def State.targetClass? (state : State) (target : Value) : Option Text :=
  match target with
  | .type name => some name
  | .object reference => state.declaredType? reference
  | _ => none

/-- Whether a target is a class. -/
def Value.isClass : Value → Bool
  | .type _ => true
  | _ => false

/-- The name of a target that is a class, or of an object's class. -/
def State.targetName (state : State) (target : Value) : Text :=
  match target with
  | .type name => name
  | target => state.typeName target

/-- Whether a value can be called: a function, a method, a class, or an object whose class says
how. -/
def State.isCallable (state : State) (value : Value) : Bool :=
  match value with
  | .routine held => held.isCallable
  | .type _ => true
  | .object reference =>
    match state.declaredType? reference with
    | some type => (state.world.member? type "__call__").isSome
    | none => false
  | _ => false

/-- An annotation with the scope in which it is evaluated together with its neighbours, and the one in
which it is evaluated alone. -/
structure PlacedAnnotation where
  /-- The annotation. -/
  annotated : Annotated
  /-- The scope of all annotations that belong together. -/
  company : Scope
  /-- The scope of the annotation alone. -/
  apart : Scope

namespace PlacedAnnotation

/-- What an annotation denotes as a type reference, beside its neighbours. -/
def reference (placed : PlacedAnnotation) : Except Fault Expected :=
  placed.annotated.reference placed.company

/-- What is read of an annotation alone. -/
def alone (placed : PlacedAnnotation) : Except Fault Expected := placed.annotated.alone placed.apart

end PlacedAnnotation

/-- What annotations denote as type references, in order; the first fault ends the evaluation. -/
def references (annotations : List (Text × PlacedAnnotation)) :
    Except Fault (List (Text × Expected)) :=
  annotations.mapM fun (name, placed) => placed.reference.map fun expected => (name, expected)

/-- The annotations of a class: together they are evaluated in its body, and alone outside of it. -/
def World.placed (world : World) (info : ClassInfo) : List (Text × PlacedAnnotation) :=
  info.annotations.map fun (name, annotated) =>
    (name, ⟨annotated, world.scope (.body info.name), world.scope .outside⟩)

/-- The annotations that a class and those it inherits from evaluate to as type references, the
farthest class first. -/
def World.attributeTypes (world : World) (type : Text) : Except Fault (List (Text × Expected)) :=
  (references ((world.lineage type).reverse.flatMap world.placed)).map Text.lastEntries

/-- The types of the attributes of a class; none are known if they cannot be evaluated together. -/
def World.knownAttributeTypes (world : World) (type : Text) :
    Outcome (List (Text × Expected)) :=
  match world.attributeTypes type with
  | .ok types => .ok types
  | .error fault => if fault.isRecoverable then .ok [] else .error (.escaped fault)

/-- How operations are looked for. -/
structure Convention where
  /-- What a keyword ends in. -/
  marker : Text
  /-- What the name of a constructing operation begins with. -/
  construction : Text
deriving DecidableEq, Repr

namespace Convention

/-- The method that an operation's conventional name leads to, if there is one on the target. -/
def conventional? (convention : Convention) (state : State) (target : Value) (name : Text) :
    Outcome (Option Text) :=
  match conventionalName name convention.marker with
  | .error fault => .error (.escaped fault)
  | .ok candidate =>
    if candidate.isEmpty || candidate.startsWith "_" then .ok none
    else
      match state.attribute? target candidate with
      | .error fault => .error (.escaped fault)
      | .ok found => .ok (if found.any state.isCallable then some candidate else none)

/-- The attribute of a target that an operation assigns to: one that the target has, or that its
class annotates. -/
def setter? (convention : Convention) (state : State) (target : Value) (name : Text) :
    Outcome (Option Text) :=
  if target.isClass then .ok none
  else
    match setterAttribute? name convention.marker with
    | .error fault => .error (.escaped fault)
    | .ok none => .ok none
    | .ok (some field) =>
      match state.attribute? target field with
      | .error fault => .error (.escaped fault)
      | .ok (some _) => .ok (some field)
      | .ok none =>
        match state.targetClass? target with
        | none => .ok none
        | some type => do
          let types ← state.world.knownAttributeTypes type
          return if (types.lookup field).isSome then some field else none

/-- The attribute of a target that an operation is declared for. -/
def declared? (state : State) (target : Value) (name : Text) : Option Text :=
  (state.targetClass? target).bind fun type => (state.world.operationTable type).lookup name

/-- Find how a target carries an operation out. -/
def resolve (convention : Convention) (state : State) (target : Value) (name : Text) :
    Outcome ResolvedOperation := do
  let constructing := target.isClass && name.startsWith convention.construction
  let attribute? ←
    match declared? state target name with
    | some field => pure (some field)
    | none => convention.conventional? state target name
  match attribute? with
  | some field =>
    if field = "__init__" then
      if constructing then return ⟨name, .construct, field⟩
      else .error (.invocation name .constructionNeedsClass)
    else return ⟨name, if constructing then .initializer else .call, field⟩
  | none =>
    match ← convention.setter? state target name with
    | some field => return ⟨name, .assign, field⟩
    | none =>
      match conventionalName name convention.marker with
      | .ok candidate =>
        .error (.invocation name (.noOperation (state.targetName target) candidate))
      | .error fault => .error (.escaped fault)

end Convention
end Stencil
