import Stencil.Operation.Signature
import Stencil.Value.Order
import Stencil.Value.Arithmetic
import Stencil.Value.Printer

/-!
# Calls

Arguments reach the parameters of a method by position, and its steps then run one after another.
A call yields a result or fails, and in both cases leaves a state.
-/
namespace Stencil

/-- The parameters among those given that have neither an argument nor a value of their own. -/
def unfilled (parameters : List Parameter) : List Text :=
  (parameters.filter fun parameter => parameter.default.isNone).map Parameter.name

/-- The full name of a method in messages. -/
def Method.callee (method : Method) : Text := method.owner ++ "." ++ method.name

/-- The value of each parameter when a method is called with arguments, the receiver among them.
Surplus arguments are reported before missing ones, and those before missing named ones. -/
def Method.bindArguments (method : Method) (arguments : List Value) :
    Except Fault (List (Text × Value)) :=
  let all := method.parameters
  let positional := all.filter fun parameter => parameter.kind.isPositional
  let named := all.filter fun parameter => parameter.kind == .keywordOnly
  let count := positional.length
  let takesRest := all.any fun parameter => parameter.kind == .rest
  let required := (positional.filter fun parameter => parameter.default.isNone).length
  let missing := unfilled (positional.drop arguments.length)
  let missingNamed := unfilled named
  if count < arguments.length && !takesRest then
    .error (.surplusArguments method.callee required count arguments.length)
  else if !missing.isEmpty then .error (.missingArguments method.callee false missing)
  else if !missingNamed.isEmpty then .error (.missingArguments method.callee true missingNamed)
  else
    let given := (positional.map Parameter.name).zip arguments
    .ok (all.map fun parameter =>
      (parameter.name,
        match parameter.kind with
        | .rest => .tuple (arguments.drop count)
        | .keywordRest => .mapping []
        | _ => (given.lookup parameter.name).getD (parameter.default.getD .nothing)))

/-- A parameter's value in the list of all: surplus arguments as a list. -/
def listedArgument : Value → ParameterKind → Value
  | .tuple items, .rest => .list items
  | value, _ => value

/-- What a running method knows. -/
structure Frame where
  /-- The method. -/
  method : Method
  /-- The object or class that it belongs to: its first argument, if it takes one. -/
  receiver : Value
  /-- The values of its parameters. -/
  values : List (Text × Value)

/-- The parameters of a method without the one that receives what it belongs to. -/
def Method.ownParameters (method : Method) : List Parameter :=
  if method.takesOwner then method.boundParameters?.getD method.parameters else method.parameters

namespace Frame

/-- The value of an expression. -/
def evaluate (frame : Frame) (state : State) : Expression → Except Fault Value
  | .argument name => .ok ((frame.values.lookup name).getD .nothing)
  | .constant value => .ok value
  | .own name => state.readAttribute frame.receiver name
  | .arguments =>
    .ok (.list (frame.method.ownParameters.map fun parameter =>
      listedArgument ((frame.values.lookup parameter.name).getD .nothing) parameter.kind))

end Frame

/-- The fault that a step raises. The message of a missing key is its written form. -/
def raisedFault (kind : Text) (value : Value) : Fault :=
  let message := if kind = "KeyError" then value.written else value.shown
  match message with
  | .ok message => .ofKind kind message
  | .error fault => fault

/-- Run the steps of a method. Without a result of its own a method gives the absent value. -/
def runSteps (frame : Frame) : List Statement → Action Value
  | [], state => (.ok .nothing, state)
  | .assign name value :: rest, state =>
    match frame.evaluate state value with
    | .error fault => (.error fault, state)
    | .ok value =>
      match State.assign frame.receiver name value state with
      | (.error fault, state) => (.error fault, state)
      | (.ok (), state) => runSteps frame rest state
  | .increase name value :: rest, state =>
    let sum := do
      let present ← state.readAttribute frame.receiver name
      let value ← frame.evaluate state value
      present.add state.classOf value
    match sum with
    | .error fault => (.error fault, state)
    | .ok total =>
      let (total, state) := state.identify total
      match State.assign frame.receiver name total state with
      | (.error fault, state) => (.error fault, state)
      | (.ok (), state) => runSteps frame rest state
  | .give value :: _, state => (frame.evaluate state value, state)
  | .fail kind value :: _, state =>
    match frame.evaluate state value with
    | .error fault => (.error fault, state)
    | .ok value => (.error (raisedFault kind value), state)

/-- Run what a method does. -/
def Frame.run (frame : Frame) : Action Value := fun state =>
  match frame.method.body with
  | .steps steps => runSteps frame steps state
  | .computed run =>
    let (outcome, heap) := run state.heap frame.values
    (outcome, { state with heap })

/-- Call a method with arguments, what it belongs to first. -/
def Method.call (method : Method) (arguments : List Value) : Action Value := fun state =>
  match method.bindArguments arguments with
  | .error fault => (.error fault, state)
  | .ok values =>
    let receiver := if method.takesOwner then arguments.headD .nothing else .nothing
    Frame.run ⟨method, receiver, values⟩ state

/-- The items that a value is walked through by. -/
def State.walk (state : State) : Value → Except Fault (List Value)
  | .text content => .ok (content.map fun char => .text [char])
  | .bytes content => .ok (content.map fun byte => .int byte.toNat)
  | .list items | .tuple items | .set items => .ok items
  | .mapping entries => .ok (entries.map Prod.fst)
  | value => .error (.notIterable (state.operandName value))

/-- The greatest of some arguments, or of the items of a single one. -/
def State.greatestOf (state : State) (arguments : List Value) : Except Fault Value :=
  match arguments with
  | [] => .error .noGreatestArgument
  | [single] => do
    match ← state.walk single with
    | [] => .error .noGreatestItem
    | first :: rest => extremeFrom state.classOf .greater first rest
  | first :: rest => extremeFrom state.classOf .greater first rest

/-- Call a predefined routine. -/
def State.callPredefined (state : State) (routine : Routine) (arguments : List Value) :
    Except Fault Value :=
  if routine = greatestRoutine then state.greatestOf arguments
  else
    match routine.holder, arguments with
    | some (.type type), [] =>
      if routine = lineageRoutine type then
        .ok (.list ((state.world.lineage type).map (fun info => .type info.name) ++
          [.type "object"]))
      else state.world.language.call routine arguments
    | _, _ => state.world.language.call routine arguments

/-- Call what makes or initializes objects: a method, or a predefined routine. -/
def Attribute.callSpecial (special : Attribute) (arguments : List Value) : Action Value :=
  fun state =>
    match special with
    | bound receiver method => method.call (receiver :: arguments) state
    | free method => method.call arguments state
    | predefined routine _ => (state.callPredefined routine arguments, state)
    | constructor type => (.error (.notCallable type), state)
    | plain value => (.error (.notCallable (state.operandName value)), state)

/-- The name of the method that makes objects. -/
def makerName : Text := "__new__"

/-- The name of the method that initializes objects. -/
def initializerName : Text := "__init__"

/-- Make an object of a class from arguments. A class that makes its objects itself may give any
value. -/
def makeObject (type : Text) (arguments : List Value) : Action Value := fun state =>
  match state.world.member? type makerName with
  | none =>
    let (object, state) := state.allocate ⟨.declared type, []⟩
    (.ok object, state)
  | some _ =>
    match state.callee (.type type) makerName with
    | .error fault => (.error fault, state)
    | .ok maker => maker.callSpecial (.type type :: arguments) state

/-- Whether a value is an object of a class or of one that inherits from it. -/
def State.isInstance (state : State) (value : Value) (type : Text) : Bool :=
  match value with
  | .object reference =>
    match state.declaredType? reference with
    | some own => own = type || (state.world.lineage own).any fun info => info.name == type
    | none => false
  | _ => false

/-- Construct an object of a class from arguments. The object that is made is initialized with the
same arguments, and the initializer must give nothing back; a class without a method for either takes
no arguments. -/
def construct (type : Text) (arguments : List Value) : Action Value := fun state =>
  match makeObject type arguments state with
  | (.error fault, state) => (.error fault, state)
  | (.ok made, state) =>
    if !state.isInstance made type then (.ok made, state)
    else
      match state.special? made initializerName with
      | none =>
        if arguments.isEmpty || (state.world.member? type makerName).isSome then (.ok made, state)
        else (.error (.noArguments type), state)
      | some initializer =>
        match (state.attributeOf initializer).callSpecial arguments state with
        | (.ok .nothing, state) => (.ok made, state)
        | (.ok value, state) => (.error (.initializerResult (state.operandName value)), state)
        | (.error fault, state) => (.error fault, state)

/-- Call what stands at an attribute. -/
def Attribute.call (field : Attribute) (arguments : List Value) : Action Value :=
  match field with
  | constructor type => construct type arguments
  | other => other.callSpecial arguments

end Stencil
