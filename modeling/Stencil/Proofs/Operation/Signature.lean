import Stencil.Proofs.Binding.Decision
import Stencil.Proofs.Operation.Call

/-!
# Types of arguments

An operation that a method carries out has types for a number of arguments exactly when the call
that it makes takes so many, and the type of each argument is what the parameter that receives it
expects. An operation never has types for another number of arguments, so that a binding never ends
because of that (`argumentTypes_agree_call`).
-/
namespace Stencil

/-! ### Numbers of types -/

/-- Whether a failure says that an invoker describes another number of arguments. -/
def Failure.describesCount : Failure → Bool
  | invocation _ (.describedCount ..) => true
  | _ => false

/-- A step does not fail because another number of arguments is described. -/
def Uncounted {α : Type} (step : Outcome α) : Prop :=
  FailsOnly (fun failure => failure.describesCount = false) step

section Count

variable {convention : Convention} {state : State} {target : Value} {name : Text} {count : Nat}
  {arguments : List Value}

/-- Reading the types of attributes does not fail because another number of arguments is
described. -/
theorem World.uncounted_knownAttributeTypes (world : World) (type : Text) :
    Uncounted (world.knownAttributeTypes type) := by
  rw [knownAttributeTypes]
  split
  · exact FailsOnly.ok
  · split
    · exact FailsOnly.ok
    · exact FailsOnly.error rfl

/-- Nor does looking for the conventional name of an operation. -/
theorem Convention.uncounted_conventional? :
    Uncounted (convention.conventional? state target name) := by
  rw [conventional?]
  split
  · exact FailsOnly.error rfl
  · split
    · exact FailsOnly.ok
    · split
      · exact FailsOnly.error rfl
      · exact FailsOnly.ok

/-- Nor does looking for the attribute that an operation assigns to. -/
theorem Convention.uncounted_setter? : Uncounted (convention.setter? state target name) := by
  rw [setter?]
  split
  · exact FailsOnly.ok
  · split
    · exact FailsOnly.error rfl
    · exact FailsOnly.ok
    · split
      · exact FailsOnly.error rfl
      · exact FailsOnly.ok
      · split
        · exact FailsOnly.ok
        · exact (World.uncounted_knownAttributeTypes _ _).bind fun _ _ => FailsOnly.ok

/-- Nor does finding how an operation is carried out. -/
theorem Convention.uncounted_resolve : Uncounted (convention.resolve state target name) := by
  by_cases leads : ∃ field, convention.Leads state target name field
  · obtain ⟨field, leads⟩ := leads
    rw [Convention.resolve_of_leads leads]
    split
    · split
      · exact FailsOnly.ok
      · exact FailsOnly.error rfl
    · exact FailsOnly.ok
  · have undeclared : Convention.declared? state target name = none := by
      refine Option.eq_none_iff_forall_ne_some.mpr fun field declared => ?_
      exact leads ⟨field, .inl declared⟩
    rw [Convention.resolve, undeclared]
    refine uncounted_conventional?.bind fun attribute? found => ?_
    cases attribute? with
    | some field => exact absurd ⟨field, .inr ⟨undeclared, found⟩⟩ leads
    | none =>
      refine uncounted_setter?.bind fun setter? _ => ?_
      cases setter? with
      | some field => exact FailsOnly.ok
      | none =>
        dsimp only
        split <;> exact FailsOnly.error rfl

/-- A signature refuses a number of arguments as one that it does not take. -/
theorem Signature.uncounted_argumentTypes (signature : Signature) (scope : Scope) :
    Uncounted (signature.argumentTypes scope name count) := by
  rw [argumentTypes]
  refine FailsOnly.bind ?_ fun expectations _ => ?_
  · rw [expectations]
    split
    · exact FailsOnly.ok
    · split
      · exact FailsOnly.mapError fun _ _ => rfl
      · exact FailsOnly.error rfl
  · dsimp only
    split
    · exact FailsOnly.error rfl
    · exact FailsOnly.ok

/-- An operation has as many types as there are arguments, if it has types for them. -/
theorem Convention.length_argumentTypes {types : List Expected}
    (found : convention.argumentTypes state target name count = .ok types) :
    types.length = count := by
  rw [argumentTypes] at found
  obtain ⟨resolved, -, found⟩ := bind_eq_ok.mp found
  split at found
  · split at found
    · contradiction
    · next one =>
      rw [ne_eq, not_not] at one
      split at found
      · obtain ⟨expected, -, same⟩ := bind_eq_ok.mp found
        obtain rfl := Except.ok.inj same
        exact one.symm
      · obtain rfl := Except.ok.inj found
        exact one.symm
  · obtain ⟨callee, -, found⟩ := bind_eq_ok.mp found
    split at found
    · exact Signature.length_argumentTypes found
    · obtain rfl := Except.ok.inj found
      exact List.length_replicate

/-- Finding the types of arguments does not fail because another number of them is described. -/
theorem Convention.uncounted_argumentTypes :
    Uncounted (convention.argumentTypes state target name count) := by
  rw [argumentTypes]
  refine uncounted_resolve.bind fun resolved _ => ?_
  split
  · split
    · exact FailsOnly.error rfl
    · split
      · refine FailsOnly.bind ?_ fun _ _ => FailsOnly.ok
        refine (World.uncounted_knownAttributeTypes _ _).bind fun types _ => ?_
        split
        · exact FailsOnly.ok
        · dsimp only
          split
          · exact FailsOnly.mapError fun _ _ => rfl
          · exact FailsOnly.ok
      · exact FailsOnly.ok
  · have held : Uncounted ((state.callee target resolved.field).mapError .escaped) :=
      FailsOnly.mapError fun _ _ => rfl
    refine held.bind fun callee _ => ?_
    split
    · exact Signature.uncounted_argumentTypes _ _
    · exact FailsOnly.ok

/-- Carrying out an operation by convention does not fail because another number of arguments is
described. -/
theorem Convention.uncounted_invoke (convention : Convention) (state : State) :
    Uncounted (convention.invoke target name arguments state).1 := by
  rw [invoke]
  split
  · next failure refused => exact FailsOnly.error (uncounted_resolve failure refused)
  · next resolved _ =>
    dsimp only
    rcases resolved.perform target _ _ with ⟨fault | value, later⟩
    · refine FailsOnly.error ?_
      rw [operationFailure]
      split
      · rfl
      · rw [Failure.ofFault]
        split <;> rfl
    · exact FailsOnly.ok

/-- A binding by convention is refused as described by another number of types only by the
conversion of an argument. -/
theorem exists_convert_of_bind {pattern : Pattern} {text : Text} {asked : Option Text}
    {convert : Converter} {failure : Failure} (counted : failure.describesCount = true)
    (failed : (bind pattern text target asked convention.invoker convert state).1 =
      .error failure) :
    ∃ part expected middle, (convert part expected middle).1 = .error failure := by
  have no_count : ∀ {α : Type} {step : Outcome α}, Uncounted step → step ≠ .error failure := by
    intro α step uncounted same
    rw [uncounted failure same] at counted
    contradiction
  obtain ⟨result, decided⟩ :=
    exists_decided pattern text target asked convention.invoker convert state
  rw [decided.bind_eq] at failed
  cases decided with
  | nonConforming | noOperation =>
    obtain rfl := Except.error.inj failed
    contradiction
  | undescribed _ _ refused =>
    obtain rfl := Except.error.inj failed
    exact absurd (congrArg Prod.fst refused) (no_count Convention.uncounted_argumentTypes)
  | miscounted _ _ described differs =>
    have found := congrArg Prod.fst described
    exact absurd (Convention.length_argumentTypes found) differs
  | refused | unlabelled =>
    obtain rfl := Except.error.inj failed
    contradiction
  | escaped _ first _ =>
    obtain rfl := Except.error.inj failed
    obtain ⟨-, middle, -, refused⟩ := first.refused
    exact ⟨_, _, middle, congrArg Prod.fst refused⟩
  | performed _ _ => exact absurd failed (no_count (Convention.uncounted_invoke convention _))

end Count

/-! ### Agreement -/

/-- An operation on a target is found and carried out by a method whose signature can be read and
whose arguments can all be passed by position. -/
structure CarriedOut (convention : Convention) (state : State) (target : Value) (name type : Text)
    (resolved : ResolvedOperation) (method : Method) : Prop where
  /-- The operation is found. -/
  found : convention.resolve state target name = .ok resolved
  /-- It is no assignment. -/
  no_assignment : resolved.kind ≠ .assign
  /-- The target has the method. -/
  offers : state.Offers target resolved.field type method
  /-- The method is declared as methods can be. -/
  formed : method.WellFormed
  /-- Its signature can be read. -/
  readable : ∃ signature, resolved.signature? (method.shownBy target type) = some signature
  /-- Its annotations can be evaluated. -/
  evaluated : ∀ entry ∈ method.annotations,
    ∃ expected, entry.2.reference (state.world.scope .outside) = .ok expected
  /-- Its keyword-only parameters have values of their own. -/
  valued : ∀ parameter ∈ method.parameters, parameter.kind = .keywordOnly →
    parameter.default.isSome = true
  /-- What objects are constructed with is a method of objects. -/
  ordinary : resolved.kind = .construct → method.kind = .ofObject
  /-- A method of objects that is called on a new object is given it by position. -/
  first : resolved.makesObject = true → method.kind = .ofObject →
    ∃ parameter ∈ method.parameters.head?, parameter.kind.isPositional = true

/-- What is found about the types of so many arguments agrees with a call. -/
structure MethodCall.AgreesWith (call : MethodCall) (scope : Scope) (name : Text) (count : Nat)
    (described : Outcome (List Expected)) : Prop where
  /-- There are types if and only if the method accepts so many arguments. -/
  accepted : ∀ arguments, arguments.length = count →
    ((∃ types, described = .ok types) ↔ ∃ values, call.bind arguments = .ok values)
  /-- Otherwise the operation is refused. -/
  refused : ∀ failure, described = .error failure → ∃ cause, failure = .invocation name cause
  /-- There are as many types as arguments. -/
  counted : ∀ types, described = .ok types → types.length = count
  /-- The type of an argument is what the parameter expects that receives it. -/
  received : ∀ types, described = .ok types → ∀ position < count,
    ∃ parameter ∈ call.method.parameters, ∃ expected, types[position]? = some expected ∧
      call.Receives count position parameter ∧ parameter.Expects scope expected

/-- What is reported of an operation: its result, or its fault as one of the operation. -/
def reported (name : Text) : Except Fault Value × State → Outcome Value × State
  | (.ok value, later) => (.ok value, later)
  | (.error fault, later) => (.error (operationFailure name fault), later)

section Agreement

variable {convention : Convention} {state later : State} {target receiver : Value}
  {name type own : Text}
  {resolved : ResolvedOperation} {method : Method} {arguments : List Value}

/-- An operation that makes an object is asked of a class. -/
theorem CarriedOut.of_class
    (carried : CarriedOut convention state target name type resolved method)
    (makes : resolved.makesObject = true) : target.isClass = true := by
  rcases Convention.resolve_cases carried.found carried.no_assignment with
    ⟨-, is_class, -⟩ | ⟨-, is_class⟩ | way
  · exact is_class
  · exact is_class
  · rw [ResolvedOperation.makesObject, way] at makes
    contradiction

/-- An operation that makes an object is asked of the class that has the method. -/
theorem CarriedOut.target_eq
    (carried : CarriedOut convention state target name type resolved method)
    (makes : resolved.makesObject = true) : target = .type type := by
  rcases State.targetClass?_cases carried.offers.class_of with same | ⟨_, _, rfl, -, -⟩
  · exact same
  · exact absurd (carried.of_class makes) Bool.false_ne_true

/-- Where objects are made as usual, an operation that makes one acts on it. -/
theorem CarriedOut.exists_actsOn
    (carried : CarriedOut convention state target name type resolved method)
    (usual : resolved.makesObject = true → state.world.member? type makerName = none)
    (arguments : List Value) {ready : State} (same_world : ready.world = state.world) :
    ∃ receiver later, resolved.ActsOn target type method arguments ready receiver type later := by
  cases makes : resolved.makesObject with
  | false => exact ⟨_, _, .target makes⟩
  | true =>
    have no_maker : ready.world.member? type makerName = none := same_world ▸ usual makes
    have made : makeObject type (resolved.makerArguments arguments) ready =
        (.ok (.object ready.heap.objects.size), (ready.allocate ⟨.declared type, []⟩).2) := by
      rw [makeObject, no_maker]
      rfl
    have here : (ready.allocate ⟨.declared type, []⟩).2.object? ready.heap.objects.size =
        some ⟨.declared type, []⟩ := Array.getElem?_push_size
    have class_of : (ready.allocate ⟨.declared type, []⟩).2.declaredType? ready.heap.objects.size =
        some type := by
      rw [State.declaredType?, here]
      rfl
    refine ⟨_, _, .made makes made class_of ?_ ?_ ?_⟩
    · change ∃ owner, ready.world.declared? _ _ = _
      rw [same_world]
      exact carried.offers.held
    · intro _
      simp [State.isInstance, class_of]
    · intro _ object found
      obtain rfl := Option.some.inj (here.symm.trans found)
      rfl

/-- An operation that a method carries out does so by its call. -/
theorem CarriedOut.invoke_eq
    (carried : CarriedOut convention state target name type resolved method)
    (acts : resolved.ActsOn target type method (state.identifyAll arguments).1
      (state.identifyAll arguments).2 receiver own later) :
    convention.invoke target name arguments state =
      reported name (resolved.conclude receiver
        ((method.callOn receiver own later).run (state.identifyAll arguments).1)) := by
  have initializes : resolved.kind = .construct → resolved.field = "__init__" := by
    intro way
    rcases Convention.resolve_cases carried.found carried.no_assignment with
      ⟨-, -, initializer⟩ | ⟨other, -⟩ | other
    · exact initializer
    · rw [way] at other
      contradiction
    · rw [way] at other
      contradiction
  have offers : (state.identifyAll arguments).2.Offers target resolved.field type method :=
    ⟨carried.offers.class_of, carried.offers.held, carried.offers.unhidden⟩
  have performed :=
    ResolvedOperation.perform_eq offers carried.target_eq initializes carried.no_assignment acts
  rw [Convention.invoke, carried.found]
  dsimp only
  rw [performed]
  rcases resolved.conclude _ _ with ⟨fault | value, later⟩ <;> rfl

/-- The types of the arguments of an operation agree with the call of the method that carries it
out. -/
theorem CarriedOut.agreesWith {ready : State}
    (carried : CarriedOut convention state target name type resolved method)
    (acts : resolved.ActsOn target type method arguments ready receiver own later) (count : Nat) :
    (method.callOn receiver own later).AgreesWith (state.world.scope .outside) name count
      (convention.argumentTypes state target name count) := by
  obtain ⟨⟨shown, left, annotations⟩, readable⟩ := carried.readable
  obtain ⟨rfl, remains⟩ := ResolvedOperation.signature?_shownBy readable carried.ordinary
    carried.of_class carried.first acts
  have leading : (method.callOn receiver own later).Leading left := Method.leading_callOn remains
  obtain ⟨expectations, known, expects⟩ := carried.formed.expects carried.evaluated
  have known := known shown left
  rw [Convention.argumentTypes_of_signature carried.found carried.no_assignment
    carried.offers.callee_eq readable]
  by_cases takes : Takes left count
  · have described := Signature.argumentTypes_of_takes name known takes
    refine ⟨?_, fun failure refused => ?_, fun types found => Signature.length_argumentTypes found,
      fun types found position inside => ?_⟩
    · rintro arguments rfl
      exact iff_of_true ⟨_, described⟩ ⟨_, leading.bind_of_takes carried.formed carried.valued takes⟩
    · rw [described] at refused
      contradiction
    · obtain ⟨parameter, reached⟩ := takes.exists_receiverAt? inside
      obtain ⟨member, receives⟩ :=
        leading.receives carried.formed carried.valued takes inside reached
      exact ⟨parameter, member, _, Signature.getElem?_argumentTypes known found inside reached,
        receives, expects parameter member⟩
  · have refusal := Signature.argumentTypes_of_not_takes name known takes
    refine ⟨?_, fun failure refused => ?_, fun types found => Signature.length_argumentTypes found,
      fun types found => ?_⟩
    · rintro arguments rfl
      refine iff_of_false ?_ ?_
      · rintro ⟨types, found⟩
        rw [refusal] at found
        contradiction
      · rintro ⟨values, bound⟩
        obtain ⟨fault, not_bound⟩ := leading.bind_of_not_takes carried.formed takes
        rw [not_bound] at bound
        contradiction
    · rw [refusal] at refused
      exact ⟨_, (Except.error.inj refused).symm⟩
    · rw [refusal] at found
      contradiction

end Agreement

/-- An initializer that takes a whole number, a floating number unless its own is to be used, texts
beyond them, and a flag by name. -/
def variadicInitializer : Method where
  owner := "Thing"
  name := "__init__"
  operation := some "initAt:"
  kind := .ofObject
  parameters :=
    [⟨"self", .positionalOnly, none, none⟩, ⟨"x", .positionalOnly, some ⟨.plain .int, false⟩, none⟩,
      ⟨"y", .positional, some ⟨.source "float", false⟩, some (.int 0)⟩,
      ⟨"words", .rest, some ⟨.plain .text, true⟩, none⟩,
      ⟨"shown", .keywordOnly, some ⟨.plain .bool, false⟩, some (.flag true)⟩]
  result := some ⟨.nothing, false⟩
  body := .steps [.assign "x" (.argument "x")]

/-- The state of a class with that initializer alone. -/
def variadicState : State where
  world := World.empty.declare "Thing" [] [("__init__", .method variadicInitializer)] []
  heap := .empty

/-- An initializer that takes a whole number. -/
def numberInitializer : Method where
  owner := "Node"
  name := "__init__"
  operation := some "initWithValue:"
  kind := .ofObject
  parameters := [.self, ⟨"value", .positional, some ⟨.plain .int, false⟩, none⟩]
  result := none
  body := .steps [.assign "value" (.argument "value")]

/-- The state of a class with that initializer, which makes its objects itself, of no arguments. -/
def makerState : State where
  world := World.empty.declare "Node" []
    [("__new__", .method
      { owner := "Node"
        name := "__new__"
        operation := none
        kind := .free
        parameters := [.cls]
        result := none
        body := .steps [.give (.constant (.int 1))] }),
      ("__init__", .method numberInitializer)]
    []
  heap := .empty

end Stencil
