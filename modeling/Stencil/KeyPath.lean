import Stencil.Failure
import Stencil.Operation.Comparison

/-!
# Key paths

A key path leads from an object to a value, key by key, between dots. A key reads an entry or an
attribute, and on a collection it reads it from each item. A component that begins with `@` is an
operator: the rest of the path is followed from each item of the collection reached so far, and
the values found are counted, added up or compared.
-/
namespace Stencil

/-- What is done with the items of a collection. -/
inductive Aggregate
  /-- Their number. -/
  | count
  /-- Their sum. -/
  | sum
  /-- Their average. -/
  | average
  /-- The least. -/
  | least
  /-- The greatest. -/
  | greatest
  /-- All of them. -/
  | union
  /-- The different ones. -/
  | distinct
deriving DecidableEq, Repr

/-- The operator of a name. -/
def Aggregate.ofName? (name : Text) : Option Aggregate :=
  if name = "count" then some count
  else if name = "sum" then some sum
  else if name = "avg" then some average
  else if name = "min" then some least
  else if name = "max" then some greatest
  else if name = "unionOfObjects" then some union
  else if name = "distinctUnionOfObjects" then some distinct
  else none

/-- How following a key path fails. -/
inductive PathFailure
  /-- The path leads nowhere. -/
  | refused (cause : PathFault)
  /-- A fault that is none of the path's. -/
  | escaped (fault : Fault)
deriving DecidableEq, Repr

/-- The outcome of following a key path. -/
abbrev PathOutcome (α : Type) := Except PathFailure α

/-- The outcome of a look-up that an object answers itself. That it lacks the key is the path's
fault, other faults are not. -/
def answeredLookup (key : Text) : Except Fault Value → PathOutcome Value
  | .ok value => .ok value
  | .error fault =>
    if fault.isA "KeyError" || fault.isA "AttributeError" then
      .error (.refused (.noValue key (some fault.kind)))
    else .error (.escaped fault)

/-- The fault of an object that answers look-ups itself about a missing key. -/
def MissingKey.fault (key : Text) : MissingKey → Fault
  | .key => .missingKey (Text.quoted key)
  | .attribute => .ofKind "AttributeError" key
  | .failure => .ofKind "ValueError" key

/-- What an object that answers look-ups itself has for a key. -/
def keyedValue (missing : MissingKey) (entries : List (Text × Value)) (key : Text) :
    PathOutcome Value :=
  match entries.lookup key with
  | some value => .ok value
  | none => answeredLookup key (.error (missing.fault key))

/-- The name of the method that answers look-ups. -/
def lookupMethod : Text := "value_for_key"

/-- Whether an attribute is there and stands for a method. -/
def standsForMethod : Option Value → Bool
  | some .nothing | none => false
  | some _ => true

/-- Whether a value that has attributes answers look-ups itself: its class has a method for that, or
it has an attribute that stands for one. -/
def State.answersLookups (state : State) (value : Value) : Except Fault Bool :=
  let declared? : Option ClassMember :=
    match value with
    | .object reference => (state.declaredType? reference).bind fun type =>
      state.world.member? type lookupMethod
    | _ => none
  match declared? with
  | some (.shared .nothing _) | none => (state.attribute? value lookupMethod).map standsForMethod
  | some _ => .ok true

/-- What the method of a value that answers look-ups has for a key; looking a key up changes
nothing. -/
def State.answer (state : State) (value : Value) (key : Text) : Except Fault Value := do
  let method ← state.callee value lookupMethod
  (method.call [.text key] state).1

/-- What a mapping has for a key. -/
def mappingValue (entries : List (Value × Value)) (key : Text) : PathOutcome Value :=
  match entryOf? (.text key) entries with
  | .ok (some value) => .ok value
  | .ok none => .error (.refused (.noValue key none))
  | .error fault => .error (.escaped fault)

/-- What a value that is no mapping and no collection has for a key: what it answers, or its
attribute. -/
def State.attributeForKey (state : State) (key : Text) (value : Value) : PathOutcome Value :=
  match state.answersLookups value with
  | .error fault => .error (.escaped fault)
  | .ok true => answeredLookup key (state.answer value key)
  | .ok false =>
    match state.readAttribute value key with
    | .ok value => .ok value
    | .error fault =>
      if fault.isA State.missingClass then
        .error (.refused (.noAttribute (state.typeName value) key fault.kind))
      else .error (.escaped fault)

mutual

/-- What a value has for a key that is not private. -/
def State.read (state : State) (key : Text) : Value → PathOutcome Value
  | .keyed _ missing entries => keyedValue missing entries key
  | .mapping entries => mappingValue entries key
  | .list items => (state.readAll key items).map .list
  | .tuple items => (state.readAll key items).map .list
  | .set items => (state.readAll key items).map .list
  | .nothing => .error (.refused (.readNothing key))
  | value => state.attributeForKey key value

/-- What each of some items has for a key that is not private. -/
def State.readAll (state : State) (key : Text) : List Value → PathOutcome (List Value)
  | [] => .ok []
  | item :: rest => do
    if key.startsWith "_" then .error (.refused (.privateKey key))
    let value ← state.read key item
    let values ← state.readAll key rest
    return value :: values

end

/-- What a value has for a key; private keys are refused whatever the value. -/
def State.valueForKey (state : State) (key : Text) (value : Value) : PathOutcome Value :=
  if key.startsWith "_" then .error (.refused (.privateKey key)) else state.read key value

/-- The items that are neither the same as an item kept before nor equal to one. -/
def State.distinctItems (state : State) (items : List Value) : Except Fault (List Value) :=
  items.foldlM
    (fun kept item => do
      let found ← holdsOfSome (fun other => state.same other item) kept
      return if found then kept else kept ++ [item])
    []

/-- What an operator makes of items. The average of none is zero, and none has a least or a
greatest. -/
def State.aggregate (state : State) (items : List Value) : Aggregate → Except Fault Value
  | .count => .ok (.int items.length)
  | .sum => Value.sum state.classOf items
  | .average =>
    if items.isEmpty then .ok (.int 0)
    else do (← Value.sum state.classOf items).dividedBy state.classOf items.length
  | .least =>
    match items with
    | [] => .ok .nothing
    | first :: rest => extremeFrom state.classOf .less first rest
  | .greatest =>
    match items with
    | [] => .ok .nothing
    | first :: rest => extremeFrom state.classOf .greater first rest
  | .union => .ok (.list items)
  | .distinct => (state.distinctItems items).map .list

/-- A fault of an operator. Operands of wrong types are the path's fault, other faults are not, and
neither is any fault of comparing items. -/
def operatorFailure (operator : Aggregate) (name : Text) (fault : Fault) : PathFailure :=
  if fault.isA "TypeError" && operator ≠ .distinct then .refused (.operatorFailed name fault)
  else .escaped fault

/-- Follow keys from a value. -/
def State.follow (state : State) : List Text → Value → PathOutcome Value
  | [], value => .ok value
  | key :: rest, value =>
    match key with
    | '@' :: name =>
      match Aggregate.ofName? name, value.items? with
      | none, _ => .error (.refused (.unknownOperator name))
      | some _, none => .error (.refused (.needsCollection name (state.typeName value)))
      | some .count, some items => .ok (.int items.length)
      | some operator, some items =>
        if rest.isEmpty then .error (.refused (.needsPath name))
        else do
          let found ← items.mapM fun item => state.follow rest item
          (state.aggregate found operator).mapError (operatorFailure operator name)
    | key => do state.follow rest (← state.valueForKey key value)

/-- Follow a key path from a value. -/
def State.resolve (state : State) (value : Value) (path : Text) : PathOutcome Value :=
  if path.isEmpty then .error (.refused .emptyPath)
  else
    let keys := Text.splitOn "." path
    if keys.any List.isEmpty then .error (.refused .emptyComponent) else state.follow keys value

end Stencil
