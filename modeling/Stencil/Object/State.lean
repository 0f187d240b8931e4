import Stencil.Object.World

/-!
# States

A state is a world with a heap. `State.readAttribute` reads an attribute of any value: of an object it is
a property of its class, its own attribute, or else another member of the class. An attribute that
cannot be read for want of it is missing (`State.attribute?`).
-/
namespace Stencil

/-- What is known, and the objects. -/
structure State where
  /-- The enumerations and classes. -/
  world : World
  /-- The objects. -/
  heap : Heap

/-- A fault, or a result, with the state it leaves. -/
abbrev Action (α : Type) := State → Except Fault α × State

namespace State

/-- The object at a reference. -/
def object? (state : State) (reference : Nat) : Option Instance := state.heap.object? reference

/-- The name of the class of the object at a reference. -/
def classOf (state : State) (reference : Nat) : Text :=
  match state.object? reference with
  | some object => object.type.name
  | none => "object"

/-- A new object, with the reference to it. -/
def allocate (state : State) (object : Instance) : Value × State :=
  let (reference, heap) := state.heap.allocate object
  (.object reference, { state with heap })

/-- Set an object's own attribute, whatever its class says. -/
def put (state : State) (reference : Nat) (name : Text) (value : Value) : State :=
  { state with heap := state.heap.put reference name value }

/-- A value that is kept from now on, each undefined number in it with an identity. -/
def identify (state : State) (value : Value) : Value × State :=
  let (value, heap) := state.heap.identify value
  (value, { state with heap })

/-- Values that are kept from now on, each undefined number in them with an identity. -/
def identifyAll (state : State) (values : List Value) : List Value × State :=
  let (values, heap) := state.heap.identifyAll values
  (values, { state with heap })

/-- The word for the type of a value. -/
def typeName (state : State) (value : Value) : Text := value.typeName state.classOf

/-- The word for the type of an operand. -/
def operandName (state : State) (value : Value) : Text := value.operandName state.classOf

/-- The class of the world that the object at a reference is an instance of. -/
def declaredType? (state : State) (reference : Nat) : Option Text :=
  match (state.object? reference).map Instance.type with
  | some (.declared type) => some type
  | _ => none

end State

/-- What a member of a class, declared by an owner under a name, is for one of its objects. -/
def ClassMember.ofObject (owner name type : Text) (reference : Nat) : ClassMember → Value
  | method member =>
    match member.kind with
    | .ofObject => .routine ⟨.method, some owner, name, some (.object reference)⟩
    | .ofClass => .routine ⟨.method, some owner, name, some (.type type)⟩
    | .free => .routine ⟨.function, some owner, name, none⟩
  | shared value _ => value
  | property _ => .routine ⟨.property, some owner, name, none⟩
  | greatest => .routine greatestRoutine

/-- What a member of a class, declared by an owner under a name, is for the class. -/
def ClassMember.ofClass (owner name type : Text) : ClassMember → Value
  | method member =>
    match member.kind with
    | .ofClass => .routine ⟨.method, some owner, name, some (.type type)⟩
    | _ => .routine ⟨.function, some owner, name, none⟩
  | shared value _ => value
  | property _ => .routine ⟨.property, some owner, name, none⟩
  | greatest => .routine greatestRoutine

/-- An attribute of a member of an enumeration: its name, its value, or another member of the
enumeration. -/
def World.memberAttribute? (world : World) (enumeration : Text) (identity : Nat)
    (member : Member) (name : Text) : Option Value :=
  if name = "name" then some (.text member.name)
  else if name = "value" then some member.value
  else
    match world.enumerations.find? fun known => known.identity == identity with
    | some known => (known.find? name).map known.valueOf
    | none =>
      if name = member.name then
        some (.member enumeration identity member.name member.value)
      else none

namespace State

/-- An attribute of an object: a property of its class, its own attribute, or another member of its
class. -/
def objectAttribute? (state : State) (reference : Nat) (object : Instance) (name : Text) :
    Option (Except Fault Value) :=
  let own? := object.attributes.lookup name
  match object.type with
  | .plain _ => own?.map .ok
  | .declared type =>
    match state.world.declared? type name with
    | some (_, .property property) => some (property.read state.heap reference)
    | some (owner, other) => some (.ok (own?.getD (other.ofObject owner name type reference)))
    | none => own?.map .ok

/-- What reading an attribute of an object, of a member of an enumeration or of a class comes to where
there is one. -/
def ownAttribute? (state : State) (value : Value) (name : Text) : Option (Except Fault Value) :=
  match value with
  | .object reference =>
    (state.object? reference).bind fun object => state.objectAttribute? reference object name
  | .member enumeration identity own inner =>
    (state.world.memberAttribute? enumeration identity ⟨own, inner⟩ name).map .ok
  | .type type =>
    (state.world.declared? type name).map fun (owner, member) =>
      .ok (member.ofClass owner name type)
  | _ => none

/-- What reading an attribute of a value comes to where there is one. -/
def found? (state : State) (value : Value) (name : Text) : Option (Except Fault Value) :=
  (state.ownAttribute? value name).or ((state.world.language.attribute? value name).map .ok)

/-- The fault of an attribute that a value does not have. -/
def lacks (state : State) (value : Value) (name : Text) : Fault :=
  match value with
  | .type type => .noClassAttribute type name
  | value => .noAttribute (state.operandName value) name

/-- Read an attribute of a value. -/
def readAttribute (state : State) (value : Value) (name : Text) : Except Fault Value :=
  (state.found? value name).getD (.error (state.lacks value name))

/-- The class of the faults that say that an attribute is missing. -/
def missingClass : Text := "AttributeError"

/-- An attribute of a value, or nothing where it is missing. -/
def attribute? (state : State) (value : Value) (name : Text) : Except Fault (Option Value) :=
  match state.readAttribute value name with
  | .ok value => .ok (some value)
  | .error fault => if fault.isA missingClass then .ok none else .error fault

/-- Set an attribute of a value. Only objects have attributes that can be set, and a property of the
class decides itself. -/
def assign (target : Value) (name : Text) (value : Value) : Action Unit := fun state =>
  match target with
  | .object reference =>
    let property? := (state.declaredType? reference).bind fun type =>
      match state.world.member? type name with
      | some (.property property) => some (type, property)
      | _ => none
    match property? with
    | some (type, property) =>
      match property.write with
      | some write =>
        let (outcome, heap) := write state.heap reference value
        (outcome, { state with heap })
      | none => (.error (.noSetter name type), state)
    | none => (.ok (), state.put reference name value)
  | target => (.error (.noAttribute (state.operandName target) name), state)

end State
end Stencil
