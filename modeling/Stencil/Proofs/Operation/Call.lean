import Stencil.Proofs.Object.Attribute
import Stencil.Proofs.Operation.Arguments

/-!
# The call of an operation

The call that carries an operation out is known before it is made (`Method.callOn`): the method, what is
passed to it before the arguments, and the state, in which a new object may have been made
(`ResolvedOperation.ActsOn`). The signature of the operation shows the parameters that are left for
the arguments (`ResolvedOperation.signature?_shownBy`), and carrying the operation out runs the call
(`ResolvedOperation.perform_eq`).
-/
namespace Stencil

/-! ### How an operation is found -/

section Resolution

variable {convention : Convention} {state : State} {target : Value} {name : Text}
  {resolved : ResolvedOperation}

/-- An operation leads to an attribute: it is declared for it, or it is not declared and has it as
its conventional name. -/
def Convention.Leads (convention : Convention) (state : State) (target : Value) (name field : Text) :
    Prop :=
  Convention.declared? state target name = some field ∨
    Convention.declared? state target name = none ∧
      convention.conventional? state target name = .ok (some field)

/-- An operation constructs: it is asked of a class, and its name begins as such names do. -/
def Convention.constructing (convention : Convention) (target : Value) (name : Text) : Bool :=
  target.isClass && name.startsWith convention.construction

/-- How an operation is carried out that leads to an attribute: an initializer makes an object of
its class and of nothing else, and another method of a class is called on a new object if the
operation constructs. -/
theorem Convention.resolve_of_leads {field : Text}
    (leads : convention.Leads state target name field) :
    convention.resolve state target name =
      if field = "__init__" then
        if convention.constructing target name then .ok ⟨name, .construct, field⟩
        else .error (.invocation name .constructionNeedsClass)
      else .ok ⟨name, if convention.constructing target name then .initializer else .call, field⟩ := by
  rw [resolve]
  rcases leads with declared | ⟨undeclared, conventional⟩
  · rw [declared]
    rfl
  · rw [undeclared]
    dsimp only
    rw [conventional]
    rfl

/-- An operation that leads to no attribute is carried out, if at all, as an assignment. -/
theorem Convention.resolve_of_not_leads (found : convention.resolve state target name = .ok resolved)
    (leads_nowhere : ∀ field, ¬ convention.Leads state target name field) :
    ∃ field, resolved = ⟨name, .assign, field⟩ := by
  cases declared : Convention.declared? state target name with
  | some field => exact absurd (.inl declared) (leads_nowhere field)
  | none =>
    rw [resolve, declared] at found
    obtain ⟨attribute?, conventional, found⟩ := bind_eq_ok.mp found
    cases attribute? with
    | some field => exact absurd (.inr ⟨declared, conventional⟩) (leads_nowhere field)
    | none =>
      obtain ⟨setter?, -, found⟩ := bind_eq_ok.mp found
      cases setter? with
      | some field => exact ⟨field, (Except.ok.inj found).symm⟩
      | none =>
        dsimp only at found
        split at found <;> contradiction

/-- An operation that is found and is no assignment constructs with the initializer of a class,
initializes an object of a class, or calls. -/
theorem Convention.resolve_cases (found : convention.resolve state target name = .ok resolved)
    (no_assignment : resolved.kind ≠ .assign) :
    resolved.kind = .construct ∧ target.isClass = true ∧ resolved.field = "__init__" ∨
      resolved.kind = .initializer ∧ target.isClass = true ∨ resolved.kind = .call := by
  by_cases leads_somewhere : ∃ field, convention.Leads state target name field
  · obtain ⟨field, leads⟩ := leads_somewhere
    have is_class : convention.constructing target name = true → target.isClass = true :=
      fun constructs => (Bool.and_eq_true_iff.mp constructs).1
    rw [resolve_of_leads leads] at found
    cases constructs : convention.constructing target name with
    | true =>
      by_cases initializer : field = "__init__"
      · rw [if_pos initializer, constructs] at found
        obtain rfl := Except.ok.inj found
        exact .inl ⟨rfl, is_class constructs, initializer⟩
      · rw [if_neg initializer, constructs] at found
        obtain rfl := Except.ok.inj found
        exact .inr (.inl ⟨rfl, is_class constructs⟩)
    | false =>
      by_cases initializer : field = "__init__"
      · rw [if_pos initializer, constructs] at found
        contradiction
      · rw [if_neg initializer, constructs] at found
        obtain rfl := Except.ok.inj found
        exact .inr (.inr rfl)
  · obtain ⟨field, rfl⟩ :=
      resolve_of_not_leads found fun field leads => leads_somewhere ⟨field, leads⟩
    exact absurd rfl no_assignment

end Resolution

/-! ### The call of a method -/

/-- A target offers a method at an attribute: its class has the method, and the target does not
hide it behind an attribute of its own. -/
structure State.Offers (state : State) (target : Value) (field type : Text) (method : Method) :
    Prop where
  /-- The target is the class or an object of it. -/
  class_of : state.targetClass? target = some type
  /-- The class has the method. -/
  held : ∃ owner, state.world.declared? type field = some (owner, .method method)
  /-- The target has no attribute of the name itself. -/
  unhidden : ∀ reference object, target = .object reference →
    state.object? reference = some object → object.attributes.lookup field = none

namespace Method

/-- What a method of a class is for a target that belongs to the class. -/
def shownBy (method : Method) (target : Value) (type : Text) : Attribute :=
  match method.kind with
  | .ofObject => if target.isClass then .free method else .bound target method
  | .ofClass => .bound (.type type) method
  | .free => .free method

/-- What is passed to a method before the arguments. -/
def receivers (method : Method) (target : Value) (type : Text) : List Value :=
  match method.kind with
  | .ofObject => if target.isClass then [] else [target]
  | .ofClass => [.type type]
  | .free => []

/-- The parameters that are left for arguments behind what is passed before them, if there is a
parameter for that. -/
def left? (method : Method) (receivers : List Value) : Option (List Parameter) :=
  if receivers.isEmpty then some method.parameters else method.boundParameters?

end Method

/-- The call of a method: what comes before the arguments, and where it is made. -/
structure MethodCall where
  /-- The method. -/
  method : Method
  /-- What is passed before the arguments. -/
  receivers : List Value
  /-- The state in which the method runs. -/
  state : State

/-- The call of a method of a class on an object of the class or the class itself. -/
def Method.callOn (method : Method) (target : Value) (type : Text) (state : State) : MethodCall :=
  ⟨method, method.receivers target type, state⟩

namespace MethodCall

/-- The values that arguments give to the parameters of the method. -/
def bind (call : MethodCall) (arguments : List Value) : Except Fault (List (Text × Value)) :=
  call.method.bindArguments (call.receivers ++ arguments)

/-- Run the method, if it takes the arguments. -/
def run (call : MethodCall) (arguments : List Value) : Except Fault Value × State :=
  call.method.call (call.receivers ++ arguments) call.state

/-- Of so many arguments the one at a position reaches a parameter: whatever the arguments are, the
parameter gets that one, or all that is passed from some place up to it on if it takes what is
left. -/
def Receives (call : MethodCall) (count position : Nat) (parameter : Parameter) : Prop :=
  ∀ arguments values, arguments.length = count → call.bind arguments = .ok values →
    (parameter.kind.isPositional = true ∧
        values.lookup parameter.name = arguments[position]?) ∨
      parameter.kind = .rest ∧ ∃ before ≤ call.receivers.length + position,
        values.lookup parameter.name = some (.tuple ((call.receivers ++ arguments).drop before))

end MethodCall

namespace ResolvedOperation

/-- Whether an operation makes a new object first. -/
def makesObject (resolved : ResolvedOperation) : Bool :=
  resolved.kind = .construct || resolved.kind = .initializer

/-- What a new object is made of: the arguments where the class is called, and nothing else. -/
def makerArguments (resolved : ResolvedOperation) (arguments : List Value) : List Value :=
  if resolved.kind = .construct then arguments else []

/-- What an operation with a method of a class acts on, of which class that is, and in which state:
the target, or the object that is made first, if its class has the method. The object is one of the
class that is constructed, and does not hide another method than the initializer behind an attribute
of its own. -/
inductive ActsOn (resolved : ResolvedOperation) (target : Value) (type : Text) (method : Method)
    (arguments : List Value) (state : State) : Value → Text → State → Prop
  /-- It acts on the target. -/
  | target (no_new : resolved.makesObject = false) :
    ActsOn resolved target type method arguments state target type state
  /-- It acts on a new object. -/
  | made {reference : Nat} {own : Text} {later : State} (makes : resolved.makesObject = true)
    (made : makeObject type (resolved.makerArguments arguments) state =
      (.ok (.object reference), later))
    (class_of : later.declaredType? reference = some own)
    (held : ∃ owner, later.world.declared? own resolved.field = some (owner, .method method))
    (constructed : resolved.kind = .construct →
      later.isInstance (.object reference) type = true)
    (unhidden : resolved.kind = .initializer → ∀ object, later.object? reference = some object →
      object.attributes.lookup resolved.field = none) :
    ActsOn resolved target type method arguments state (.object reference) own later

/-- What the end of the call makes of an operation: a new object is the result where its method
gives none, and an initializer of a class must give none. -/
def conclude (resolved : ResolvedOperation) (object : Value) :
    Except Fault Value × State → Except Fault Value × State
  | (.ok value, later) =>
    match resolved.kind, value with
    | .construct, .nothing | .initializer, .nothing => (.ok object, later)
    | .construct, value => (.error (.initializerResult (later.operandName value)), later)
    | _, value => (.ok value, later)
  | failed => failed

end ResolvedOperation

section Call

variable {state : State} {target : Value} {field type own : Text} {method : Method}

/-- A target that belongs to a class is the class or an object of it. -/
theorem State.targetClass?_cases (class_of : state.targetClass? target = some type) :
    target = .type type ∨ ∃ reference object, target = .object reference ∧
      state.object? reference = some object ∧ object.type = .declared type := by
  cases target with
  | type name =>
    obtain rfl := Option.some.inj class_of
    exact .inl rfl
  | object reference =>
    have declared : state.declaredType? reference = some type := class_of
    rw [State.declaredType?] at declared
    cases found : state.object? reference with
    | none =>
      rw [found] at declared
      contradiction
    | some object =>
      rw [found, Option.map_some] at declared
      cases typed : object.type with
      | plain name =>
        rw [typed] at declared
        contradiction
      | declared name =>
        rw [typed] at declared
        obtain rfl := Option.some.inj declared
        exact .inr ⟨reference, object, rfl, found, typed⟩
  | _ => contradiction

/-- The member that is found for a class is that of the class that is said to declare it. -/
theorem World.method?_of_declared? {world : World} {owner name : Text} (kind : RoutineKind)
    (holder : Option Holder) (declared : world.declared? type name = some (owner, .method method)) :
    world.method? ⟨kind, some owner, name, holder⟩ = some method := by
  obtain ⟨info, along, own⟩ := List.exists_of_findSome?_eq_some declared
  obtain ⟨member, held, same⟩ := Option.map_eq_some_iff.mp own
  obtain ⟨rfl, rfl⟩ := Prod.mk.inj same
  have found : world.find? info.name = some info := by
    rw [World.lineage] at along
    split at along
    · obtain ⟨other, -, found⟩ := List.mem_filterMap.mp along
      have named := List.find?_some found
      rw [← beq_iff_eq.mp named] at found
      exact found
    · contradiction
  rw [World.method?]
  simp only [Bind.bind, Option.bind, found, held]

/-- A method of an object is, when it is called, what the object shows. -/
theorem State.attributeOf_ofObject {owner : Text} (reference : Nat)
    (declared : state.world.declared? type field = some (owner, .method method)) :
    state.attributeOf ((ClassMember.method method).ofObject owner field type reference) =
      method.shownBy (.object reference) type := by
  rw [ClassMember.ofObject, Method.shownBy]
  cases method.kind <;> dsimp only <;>
    rw [attributeOf, routineAttribute, World.method?_of_declared? _ _ declared] <;> rfl

/-- A method of a class is, when it is called, what the class shows. -/
theorem State.attributeOf_ofClass {owner : Text}
    (declared : state.world.declared? type field = some (owner, .method method)) :
    state.attributeOf ((ClassMember.method method).ofClass owner field type) =
      method.shownBy (.type type) type := by
  rw [ClassMember.ofClass, Method.shownBy]
  cases method.kind <;> dsimp only <;>
    rw [attributeOf, routineAttribute, World.method?_of_declared? _ _ declared] <;> rfl

/-- A target shows a method that it offers. -/
theorem State.Offers.callee_eq (offers : state.Offers target field type method) :
    state.callee target field = .ok (method.shownBy target type) := by
  obtain ⟨owner, declared⟩ := offers.held
  rcases State.targetClass?_cases offers.class_of with rfl | ⟨reference, object, rfl, here, typed⟩
  · rw [State.callee, State.readAttribute_type declared]
    exact congrArg Except.ok (State.attributeOf_ofClass declared)
  · rw [State.callee, State.readAttribute_object here typed declared
      (offers.unhidden reference object rfl here) nofun]
    exact congrArg Except.ok (State.attributeOf_ofObject reference declared)

/-- What a target shows is called with the target, or its class, before the arguments. -/
theorem Method.call_shownBy (method : Method) (target : Value) (type : Text)
    (arguments : List Value) :
    (method.shownBy target type).call arguments =
      method.call (method.receivers target type ++ arguments) := by
  rw [shownBy, receivers]
  cases method.kind with
  | ofObject => cases target.isClass <;> rfl
  | _ => rfl

variable {resolved : ResolvedOperation} {arguments : List Value} {later : State} {receiver : Value}

/-- What a target shows has the parameters that are left behind the target, or its class. -/
theorem Method.signature?_shownBy (method : Method) (target : Value) (type : Text) :
    (method.shownBy target type).signature? =
      (method.left? (method.receivers target type)).map fun left =>
        ⟨left, left, method.annotations⟩ := by
  rw [shownBy, receivers, left?]
  cases method.kind with
  | ofObject => cases target.isClass <;> rfl
  | _ => rfl

/-- A parameter that is reached by position is given what a method belongs to. -/
theorem Method.boundParameters?_of_first
    (first : ∃ parameter ∈ method.parameters.head?, parameter.kind.isPositional = true) :
    method.boundParameters? = some (method.parameters.drop 1) := by
  obtain ⟨parameter, leads, positional⟩ := first
  rw [boundParameters?]
  cases all : method.parameters with
  | nil =>
    rw [all] at leads
    contradiction
  | cons other rest =>
    rw [all] at leads
    obtain rfl := Option.some.inj leads
    dsimp only
    cases kind : other.kind <;> first | rfl | (rw [kind] at positional; contradiction)

/-- An operation makes a new object exactly if it constructs one or initializes one. -/
theorem ResolvedOperation.makesObject_iff :
    resolved.makesObject = true ↔ resolved.kind = .construct ∨ resolved.kind = .initializer := by
  rw [makesObject, Bool.or_eq_true, decide_eq_true_eq, decide_eq_true_eq]

/-- The signature of an operation that makes no object is that of what is called. -/
theorem ResolvedOperation.signature?_of_target (no_new : resolved.makesObject = false)
    (callee : Attribute) : resolved.signature? callee = callee.signature? := by
  rw [signature?]
  cases way : resolved.kind with
  | call | assign => rfl
  | construct | initializer =>
    rw [makesObject, way] at no_new
    contradiction

/-- Where a new object is made, what takes one is shown without its first parameter. -/
theorem ResolvedOperation.signature?_of_made (makes : resolved.makesObject = true)
    {callee : Attribute} (takes : callee.takesReceiver = true) :
    resolved.signature? callee = callee.signature?.map fun signature =>
      { signature with parameters := signature.parameters.drop 1 } := by
  rw [signature?]
  rcases makesObject_iff.mp makes with way | way
  · rw [way]
  · rw [way]
    exact if_pos takes

/-- What takes no object is shown with all its parameters, unless it constructs. -/
theorem ResolvedOperation.signature?_of_no_receiver (no_construct : resolved.kind ≠ .construct)
    {callee : Attribute} (no_receiver : callee.takesReceiver = false) :
    resolved.signature? callee = callee.signature? := by
  rw [signature?]
  cases way : resolved.kind with
  | construct => exact absurd way no_construct
  | initializer =>
    refine if_neg ?_
    rw [no_receiver]
    exact Bool.false_ne_true
  | call | assign => rfl

/-- The signature of what a target shows has the parameters that are left for the arguments. -/
theorem Method.left?_of_signature? {signature : Signature}
    (shown : (method.shownBy target type).signature? = some signature) :
    signature.annotations = method.annotations ∧
      method.left? (method.receivers target type) = some signature.parameters := by
  rw [signature?_shownBy] at shown
  obtain ⟨left, found, rfl⟩ := Option.map_eq_some_iff.mp shown
  exact ⟨rfl, found⟩

/-- The signature of an operation that a method carries out shows the parameters that are left for
the arguments. -/
theorem ResolvedOperation.signature?_shownBy {signature : Signature}
    (readable : resolved.signature? (method.shownBy target type) = some signature)
    (ordinary : resolved.kind = .construct → method.kind = .ofObject)
    (of_class : resolved.makesObject = true → target.isClass = true)
    (first : resolved.makesObject = true → method.kind = .ofObject →
      ∃ parameter ∈ method.parameters.head?, parameter.kind.isPositional = true)
    (acts : resolved.ActsOn target type method arguments state receiver own later) :
    signature.annotations = method.annotations ∧
      method.left? (method.receivers receiver own) = some signature.parameters := by
  cases acts with
  | target no_new =>
    rw [signature?_of_target no_new] at readable
    exact Method.left?_of_signature? readable
  | @made reference own later makes =>
    cases belongs : method.kind with
    | ofObject =>
      have shown : method.shownBy target type = .free method := by
        rw [Method.shownBy, belongs]
        exact if_pos (of_class makes)
      have takes : (Attribute.free method).takesReceiver = true := by
        rw [Attribute.takesReceiver, Method.takesOwner, belongs]
        rfl
      have receiver_first : method.receivers (.object reference) own = [.object reference] := by
        rw [Method.receivers, belongs]
        rfl
      rw [shown, signature?_of_made makes takes] at readable
      obtain rfl := Option.some.inj readable
      rw [receiver_first]
      exact ⟨rfl, Method.boundParameters?_of_first (first makes belongs)⟩
    | ofClass | free =>
      -- These are given a class or nothing, so the new object takes no parameter.
      have no_construct : resolved.kind ≠ .construct := by
        intro way
        rw [ordinary way] at belongs
        contradiction
      have no_receiver : (method.shownBy target type).takesReceiver = false := by
        rw [Method.shownBy, belongs]
        first | rfl | (rw [Attribute.takesReceiver, Method.takesOwner, belongs]; rfl)
      have same : method.left? (method.receivers (.object reference) own) =
          method.left? (method.receivers target type) := by
        simp [Method.left?, Method.receivers, belongs]
      rw [signature?_of_no_receiver no_construct no_receiver] at readable
      rw [same]
      exact Method.left?_of_signature? readable

/-- What the class of an object has for the object is what its member is for it. -/
theorem State.special?_object {reference : Nat} {owner name : Text} {member : ClassMember}
    (typed : state.declaredType? reference = some type)
    (declared : state.world.declared? type name = some (owner, member)) :
    state.special? (.object reference) name = some (member.ofObject owner name type reference) := by
  rw [special?, typed, Option.bind_eq_bind, Option.bind_some, declared]
  rfl

/-- A call of what a target shows is that of the method. -/
theorem ResolvedOperation.perform_of_call (way : resolved.kind = .call)
    (offers : state.Offers target resolved.field type method) :
    resolved.perform target arguments state =
      resolved.conclude target ((method.callOn target type state).run arguments) := by
  have called : resolved.perform target arguments state =
      (method.callOn target type state).run arguments := by
    simp only [perform, way, offers.callee_eq]
    rw [Method.call_shownBy]
    rfl
  rw [called]
  rcases (method.callOn target type state).run arguments with ⟨fault | value, later⟩
  · rfl
  · simp only [conclude, way]

/-- The initializer of an object is called as every other method is. -/
theorem Method.callSpecial_shownBy (method : Method) (reference : Nat) (type : Text) :
    (method.shownBy (.object reference) type).callSpecial =
      (method.shownBy (.object reference) type).call := by
  rw [shownBy]
  cases method.kind <;> rfl

/-- An object that is constructed runs its initializer. -/
theorem ResolvedOperation.perform_of_construct {reference : Nat} {owner : Text}
    (way : resolved.kind = .construct) (initializes : resolved.field = "__init__")
    (made : makeObject type arguments state = (.ok (.object reference), later))
    (instance_of : later.isInstance (.object reference) type = true)
    (class_of : later.declaredType? reference = some own)
    (declared : later.world.declared? own resolved.field = some (owner, .method method)) :
    resolved.perform (.type type) arguments state =
      resolved.conclude (.object reference)
        ((method.callOn (.object reference) own later).run arguments) := by
  rw [initializes] at declared
  change later.world.declared? own initializerName = _ at declared
  have performed : resolved.perform (.type type) arguments state =
      construct type arguments state := by
    rw [perform]
    exact way
  rw [performed, construct, made]
  dsimp only
  rw [instance_of, State.special?_object class_of declared]
  dsimp only
  rw [State.attributeOf_ofObject reference declared, Method.callSpecial_shownBy, MethodCall.run,
    Method.callOn]
  dsimp only
  rw [← Method.call_shownBy]
  rcases (method.shownBy (.object reference) own).call arguments later with ⟨fault | value, last⟩
  · rfl
  · cases value <;> simp only [conclude, way] <;> rfl

/-- An initializer of a class runs on an object that is made of nothing. -/
theorem ResolvedOperation.perform_of_initializer {reference : Nat}
    (way : resolved.kind = .initializer)
    (made : makeObject type [] state = (.ok (.object reference), later))
    (offered : later.Offers (.object reference) resolved.field own method) :
    resolved.perform (.type type) arguments state =
      resolved.conclude (.object reference)
        ((method.callOn (.object reference) own later).run arguments) := by
  rw [MethodCall.run, Method.callOn]
  dsimp only
  rw [← Method.call_shownBy]
  simp only [perform, way, made, offered.callee_eq]
  rcases (method.shownBy (.object reference) own).call arguments later with ⟨fault | value, last⟩
  · rfl
  · cases value <;> simp only [conclude, way]

/-- An operation that a method carries out does so by its call. -/
theorem ResolvedOperation.perform_eq (offers : state.Offers target resolved.field type method)
    (of_class : resolved.makesObject = true → target = .type type)
    (initializes : resolved.kind = .construct → resolved.field = "__init__")
    (no_assignment : resolved.kind ≠ .assign)
    (acts : resolved.ActsOn target type method arguments state receiver own later) :
    resolved.perform target arguments state =
      resolved.conclude receiver ((method.callOn receiver own later).run arguments) := by
  cases acts with
  | target no_new =>
    have no_object : ¬ (resolved.kind = .construct ∨ resolved.kind = .initializer) := by
      rw [← makesObject_iff, no_new]
      exact Bool.false_ne_true
    cases way : resolved.kind with
    | call => exact perform_of_call way offers
    | assign => exact absurd way no_assignment
    | construct => exact absurd (.inl way) no_object
    | initializer => exact absurd (.inr way) no_object
  | @made reference own later makes made class_of held constructed unhidden =>
    obtain rfl := of_class makes
    rcases makesObject_iff.mp makes with way | way
    · rw [makerArguments, if_pos way] at made
      obtain ⟨owner, declared⟩ := held
      exact perform_of_construct way (initializes way) made (constructed way) class_of declared
    · have no_arguments : resolved.kind ≠ .construct := by
        rw [way]
        decide
      rw [makerArguments, if_neg no_arguments] at made
      have offered : later.Offers (.object reference) resolved.field own method := by
        refine ⟨class_of, held, fun other object same found => ?_⟩
        obtain rfl := Value.object.inj same
        exact unhidden way object found
      exact perform_of_initializer way made offered

end Call

/-! ### Behind the receiver -/

/-- What is passed before the arguments of a call is taken, and some parameters are left for these. -/
inductive MethodCall.Leading (call : MethodCall) (left : List Parameter) : Prop
  /-- Nothing is passed before them. -/
  | nothing (none_first : call.receivers = []) (all : call.method.parameters = left)
  /-- The first parameter is given by position what is passed. -/
  | byPosition {value : Value} {first : Parameter} (one_first : call.receivers = [value])
    (all : call.method.parameters = first :: left) (positional : first.kind.isPositional = true)
  /-- The first parameter takes what is passed among all others. -/
  | amongRest {value : Value} {first : Parameter} {others : List Parameter}
    (one_first : call.receivers = [value]) (all : call.method.parameters = left)
    (same : left = first :: others) (rest : first.kind = .rest)

section Receiver

variable {call : MethodCall} {left : List Parameter} {count position : Nat}

/-- The call of a method leads with the object or the class that the method belongs to. -/
theorem Method.leading_callOn {method : Method} {receiver : Value} {type : Text} {state : State}
    (found : method.left? (method.receivers receiver type) = some left) :
    (method.callOn receiver type state).Leading left := by
  have one_or_none : method.receivers receiver type = [] ∨
      ∃ value, method.receivers receiver type = [value] := by
    rw [receivers]
    cases method.kind with
    | ofObject => cases receiver.isClass <;> simp
    | _ => simp
  rcases one_or_none with none_first | ⟨value, one_first⟩
  · rw [none_first] at found
    exact .nothing none_first (Option.some.inj found)
  · rw [one_first] at found
    change method.boundParameters? = some left at found
    rw [boundParameters?] at found
    split at found
    · contradiction
    · next first others all =>
      split at found
      · next kind =>
        obtain rfl := Option.some.inj found
        exact .byPosition one_first all (by rw [kind]; rfl)
      · next kind =>
        obtain rfl := Option.some.inj found
        exact .byPosition one_first all (by rw [kind]; rfl)
      · next kind =>
        obtain rfl := Option.some.inj found
        exact .amongRest one_first all rfl kind
      · contradiction
      · contradiction

/-- Where the first parameter takes what is left, none is reached by position. -/
theorem Method.WellFormed.positionals_eq_nil {method : Method} {first : Parameter}
    {others : List Parameter} (formed : method.WellFormed)
    (all : method.parameters = first :: others) (rest : first.kind = .rest) :
    positionals method.parameters = [] := by
  have arranged := formed.arranged
  rw [all] at arranged ⊢
  refine List.filter_eq_nil_iff.mpr fun parameter member => ?_
  rcases List.mem_cons.mp member with rfl | behind
  · rw [rest]
    exact Bool.false_ne_true
  · rw [(List.pairwise_cons.mp arranged).1 parameter behind rest]
    exact Bool.false_ne_true

/-- What is left goes past a first parameter that is reached by position. -/
theorem restOf?_cons {first : Parameter} (positional : first.kind.isPositional = true) :
    restOf? (first :: left) = restOf? left := by
  have no_rest : (first.kind == .rest) = false := by
    cases kind : first.kind <;> first | rfl | (rw [kind] at positional; contradiction)
  rw [restOf?, List.find?_cons, no_rest, restOf?]

/-- Behind a first parameter that is reached by position, the others take one argument less. -/
theorem takes_cons {first : Parameter} (positional : first.kind.isPositional = true)
    (ordered : (positionals (first :: left)).Pairwise fun before after =>
      before.default.isSome = true → after.default.isSome = true) :
    Takes (first :: left) (count + 1) ↔ Takes left count := by
  have counted : positionals (first :: left) = first :: positionals left :=
    List.filter_cons_of_pos positional
  have rest_behind : restOf? (first :: left) = restOf? left := restOf?_cons positional
  have fitting : ((positionals (first :: left)).length < count + 1 →
      (restOf? (first :: left)).isSome = true) ↔
        ((positionals left).length < count → (restOf? left).isSome = true) := by
    rw [counted, rest_behind, List.length_cons, Nat.add_lt_add_iff_right]
  have enough : (required (first :: left)).length ≤ count + 1 ↔ (required left).length ≤ count := by
    rw [counted] at ordered
    rw [required, counted, required]
    cases valued : first.default with
    | none =>
      rw [List.filter_cons_of_pos (by rw [valued]; rfl), List.length_cons,
        Nat.add_le_add_iff_right]
    | some value =>
      -- Behind a value of its own all have one, so that none must be reached.
      have own : first.default.isSome = true := by rw [valued]; rfl
      have none_missing : (positionals left).filter (fun parameter => parameter.default.isNone) =
          [] := by
        refine List.filter_eq_nil_iff.mpr fun parameter member => ?_
        have also := (List.pairwise_cons.mp ordered).1 parameter member own
        rw [← Option.not_isSome, also]
        exact Bool.false_ne_true
      rw [List.filter_cons_of_neg (by rw [valued]; exact Bool.false_ne_true), none_missing]
      simp
  constructor
  · exact fun takes => ⟨enough.mp takes.enough, fitting.mp takes.fitting⟩
  · exact fun takes => ⟨enough.mpr takes.enough, fitting.mpr takes.fitting⟩

/-- A method takes what is passed to it exactly if the parameters left for the arguments take
these. -/
theorem MethodCall.Leading.takes_iff (leading : call.Leading left) (formed : call.method.WellFormed) :
    Takes call.method.parameters (call.receivers.length + count) ↔ Takes left count := by
  cases leading with
  | nothing none_first all => rw [none_first, all, List.length_nil, Nat.zero_add]
  | byPosition one_first all positional =>
    have ordered := formed.ordered
    rw [all] at ordered
    rw [one_first, all, List.length_singleton, Nat.add_comm]
    exact takes_cons positional ordered
  | @amongRest value first others one_first all same rest =>
    have no_positional := formed.positionals_eq_nil (all.trans same) rest
    have takes_all : ∀ count, Takes call.method.parameters count := by
      intro count
      have found : restOf? call.method.parameters = some first := by
        rw [all, same, restOf?, List.find?_cons, rest]
        rfl
      refine ⟨?_, fun _ => by rw [found]; rfl⟩
      rw [required, no_positional]
      exact Nat.zero_le count
    rw [all] at takes_all ⊢
    exact iff_of_true (takes_all _) (takes_all _)

/-- The parameter that an argument reaches among those left is the one it reaches behind what is
passed before it. -/
theorem MethodCall.Leading.receiverAt?_eq (leading : call.Leading left)
    (formed : call.method.WellFormed) (position : Nat) :
    receiverAt? call.method.parameters (call.receivers.length + position) =
      receiverAt? left position := by
  cases leading with
  | nothing none_first all => rw [none_first, all, List.length_nil, Nat.zero_add]
  | @byPosition value first one_first all positional =>
    have counted : positionals (first :: left) = first :: positionals left :=
      List.filter_cons_of_pos positional
    rw [one_first, all, List.length_singleton, Nat.add_comm, receiverAt?, counted,
      restOf?_cons positional]
    rfl
  | amongRest one_first all same rest =>
    have no_positional := formed.positionals_eq_nil (all.trans same) rest
    rw [all] at no_positional ⊢
    rw [receiverAt?, receiverAt?, no_positional]
    rfl

/-- A method accepts arguments that the parameters left for them take. -/
theorem MethodCall.Leading.bind_of_takes (leading : call.Leading left)
    (formed : call.method.WellFormed)
    (valued : ∀ parameter ∈ call.method.parameters, parameter.kind = .keywordOnly →
      parameter.default.isSome = true)
    {arguments : List Value} (takes : Takes left arguments.length) :
    call.bind arguments = .ok (call.method.bound (call.receivers ++ arguments)) := by
  refine Method.bindArguments_of_takes formed valued ?_
  rw [List.length_append, leading.takes_iff formed]
  exact takes

/-- A method refuses arguments that the parameters left for them do not take. -/
theorem MethodCall.Leading.bind_of_not_takes (leading : call.Leading left)
    (formed : call.method.WellFormed) {arguments : List Value}
    (not_taken : ¬ Takes left arguments.length) :
    ∃ fault, call.bind arguments = .error fault := by
  refine Method.bindArguments_of_not_takes formed ?_
  rw [List.length_append, leading.takes_iff formed]
  exact not_taken

/-- An argument that is taken is received by the parameter that it reaches by its position. -/
theorem MethodCall.Leading.receives (leading : call.Leading left) (formed : call.method.WellFormed)
    (valued : ∀ parameter ∈ call.method.parameters, parameter.kind = .keywordOnly →
      parameter.default.isSome = true)
    {parameter : Parameter} (takes : Takes left count)
    (inside : position < count) (reached : receiverAt? left position = some parameter) :
    parameter ∈ call.method.parameters ∧ call.Receives count position parameter := by
  rw [← leading.receiverAt?_eq formed, receiverAt?] at reached
  by_cases placed :
      call.receivers.length + position < (positionals call.method.parameters).length
  · rw [List.getElem?_eq_getElem placed, Option.some_or] at reached
    have located := (List.getElem?_eq_getElem placed).trans reached
    obtain ⟨member, positional⟩ := List.mem_filter.mp (List.mem_of_getElem? located)
    refine ⟨member, ?_⟩
    rintro arguments values rfl bound
    rw [leading.bind_of_takes formed valued takes] at bound
    obtain rfl := Except.ok.inj bound
    refine .inl ⟨positional, ?_⟩
    rw [formed.lookup_positional located (by rw [List.length_append]; omega),
      List.getElem?_append_right (by omega), Nat.add_sub_cancel_left]
  · rw [List.getElem?_eq_none (Nat.not_lt.mp placed), Option.none_or] at reached
    refine ⟨List.mem_of_find?_eq_some reached, ?_⟩
    rintro arguments values rfl bound
    rw [leading.bind_of_takes formed valued takes] at bound
    obtain rfl := Except.ok.inj bound
    obtain ⟨kind, behind⟩ := formed.lookup_rest reached (call.receivers ++ arguments)
    exact .inr ⟨kind, _, Nat.not_lt.mp placed, behind⟩

end Receiver
end Stencil
