import Stencil.Value.Equality
import Stencil.Value.Printer

/-!
# Expected types

What a parameter or an attribute expects: a plain type, an enumeration, a class, a list, or one of
several alternatives. A type has a written form for messages (`Expected.written`) and, unless it
is spelled with bars or is a constant, a short name (`Expected.shortName?`).
-/
namespace Stencil

/-- The plain types. -/
inductive PlainType
  /-- Integers. -/
  | int
  /-- Floating numbers. -/
  | float
  /-- Booleans. -/
  | bool
  /-- Texts. -/
  | text
  /-- Decimals. -/
  | decimal
  /-- All values. -/
  | object
  /-- Lists. -/
  | list
  /-- Mappings. -/
  | mapping
  /-- Bytes. -/
  | bytes
  /-- Tuples. -/
  | tuple
  /-- Sets. -/
  | set
  /-- Complex numbers. -/
  | complex
  /-- Classes. -/
  | type
  /-- The absent value alone. -/
  | nothing
  /-- No expectation at all. -/
  | unspecified
deriving DecidableEq, Repr

/-- The name of a plain type. -/
def PlainType.name : PlainType → Text
  | int => "int"
  | float => "float"
  | bool => "bool"
  | text => "str"
  | decimal => "Decimal"
  | object => "object"
  | list => "list"
  | mapping => "dict"
  | bytes => "bytes"
  | tuple => "tuple"
  | set => "set"
  | complex => "complex"
  | type => "type"
  | nothing => "NoneType"
  | unspecified => "_empty"

/-- The name of a plain type with the module it belongs to. -/
def PlainType.qualified : PlainType → Text
  | decimal => "decimal.Decimal"
  | unspecified => "inspect._empty"
  | plain => plain.name

/-- A member of an enumeration. -/
structure Member where
  /-- Its name. -/
  name : Text
  /-- Its value. -/
  value : Value

/-- An enumeration: its members in order, and further names of them. -/
structure Enumeration where
  /-- Its name. -/
  name : Text
  /-- What tells it from other enumerations. -/
  identity : Nat
  /-- The members in the order of their declaration. -/
  members : List Member
  /-- Further names, each with the name of the member it stands for. -/
  aliases : List (Text × Text)

namespace Enumeration

/-- A member of the enumeration as a value. -/
def valueOf (enumeration : Enumeration) (member : Member) : Value :=
  .member enumeration.name enumeration.identity member.name member.value

/-- The member of a name or of a further name. -/
def find? (enumeration : Enumeration) (name : Text) : Option Member :=
  let name := (enumeration.aliases.lookup name).getD name
  enumeration.members.find? fun member => member.name == name

/-- One more declared name: a further name of the first member with the same value, or a new
member. -/
def declare (enumeration : Enumeration) (name : Text) (value : Value) : Enumeration :=
  let same := fun member : Member => (Value.same member.value value).toOption.getD false
  match enumeration.members.find? same with
  | some member => { enumeration with aliases := enumeration.aliases ++ [(name, member.name)] }
  | none => { enumeration with members := enumeration.members ++ [⟨name, value⟩] }

/-- The enumeration of declared names and values. -/
def ofDeclared (name : Text) (identity : Nat) (declared : List (Text × Value)) : Enumeration :=
  declared.foldl (fun enumeration (name, value) => enumeration.declare name value)
    ⟨name, identity, [], []⟩

end Enumeration

/-- What is expected. -/
inductive Expected
  /-- A value of a plain type. -/
  | plain (kind : PlainType)
  /-- Any value. -/
  | any
  /-- The absent value itself stands in place of a type. -/
  | nothing
  /-- One of several alternatives, spelled with bars or as a union. -/
  | union (bars : Bool) (alternatives : List Expected)
  /-- A list of items. -/
  | listOf (item : Expected)
  /-- A member of an enumeration. -/
  | memberOf (enumeration : Enumeration)
  /-- An object of a class. -/
  | instanceOf (name : Text)
  /-- Another value stands in place of a type. -/
  | constant (value : Value)
  /-- A name that is still to be looked up. -/
  | forward (source : Text)

namespace Expected

/-- A value in place of a type; the absent value has a form of its own. -/
def ofValue : Value → Expected
  | .nothing => .nothing
  | .type name => if name = "object" then .plain .object else .instanceOf name
  | value => .constant value

mutual

/-- Whether two expected types are the same; alternatives may come in any order. -/
def same : Expected → Expected → Bool
  | .plain a, .plain b => a = b
  | .any, .any => true
  | .nothing, .nothing => true
  | .union _ a, .union _ b => within a b && b.all fun other => containsSame a other
  | .listOf a, .listOf b => same a b
  | .memberOf a, .memberOf b => a.identity = b.identity
  | .instanceOf a, .instanceOf b => a = b
  | .constant a, .constant b => (Value.same a b).toOption.getD false
  | .forward a, .forward b => a = b
  | _, _ => false

/-- Whether each of some expected types is among others. -/
def within : List Expected → List Expected → Bool
  | [], _ => true
  | a :: as, bs => bs.any (fun b => same a b) && within as bs

/-- Whether an expected type is the same as one of some. -/
def containsSame : List Expected → Expected → Bool
  | [], _ => false
  | a :: as, b => same a b || containsSame as b

end

/-- The alternatives that an expected type brings into a union: a union's own, and the type of the
absent value for the absent value. -/
def alternatives : Expected → List Expected
  | .union _ alternatives => alternatives
  | .nothing => [.plain .nothing]
  | expected => [expected]

/-- The expected types without those that are the same as an earlier one. -/
def distinct (expected : List Expected) : List Expected :=
  expected.foldl (fun kept one => if containsSame kept one then kept else kept ++ [one]) []

/-- The union of expected types: unions among them are dissolved, repeated alternatives dropped,
and a single alternative stands for itself. -/
def unionOf (bars : Bool) (expected : List Expected) : Expected :=
  match distinct (expected.flatMap alternatives) with
  | [single] => single
  | several => .union bars several

/-- Whether an alternative is the type of the absent value. -/
def isNothingType : Expected → Bool
  | .plain .nothing => true
  | _ => false

/-- Whether a union, spelled out, is one type or the absent value. -/
def isOptional (alternatives : List Expected) : Bool :=
  alternatives.length = 2 && alternatives.any isNothingType

mutual

/-- The form of an expected type within another one. -/
def inner : Expected → Except Fault Text
  | .plain kind => .ok kind.qualified
  | .any => .ok "typing.Any"
  | .nothing => .ok "None"
  | .union bars alternatives => do
    if bars then
      let texts ← barTexts alternatives
      return Text.join " | " texts
    else if isOptional alternatives then
      let texts ← optionalTexts alternatives
      return "typing.Optional[" ++ Text.join ", " texts ++ "]"
    else
      let texts ← unionTexts alternatives
      return "typing.Union[" ++ Text.join ", " texts ++ "]"
  | .listOf item => do
    let text ← inner item
    return "list[" ++ text ++ "]"
  | .memberOf enumeration => .ok ("world." ++ enumeration.name)
  | .instanceOf name => .ok (qualifiedClass name)
  | .constant value => value.written
  | .forward source => .ok ("ForwardRef(" ++ Text.quoted source ++ ")")

/-- The forms of alternatives between bars, where the type of the absent value is written as the
value. -/
def barTexts : List Expected → Except Fault (List Text)
  | [] => .ok []
  | alternative :: rest => do
    let text ← if isNothingType alternative then pure ("None" : Text) else inner alternative
    let rest ← barTexts rest
    return text :: rest

/-- The forms of the alternatives other than the type of the absent value. -/
def optionalTexts : List Expected → Except Fault (List Text)
  | [] => .ok []
  | alternative :: rest => do
    let text ← inner alternative
    let rest ← optionalTexts rest
    return if isNothingType alternative then rest else text :: rest

/-- The forms of the alternatives of a union. -/
def unionTexts : List Expected → Except Fault (List Text)
  | [] => .ok []
  | alternative :: rest => do
    let text ← inner alternative
    let rest ← unionTexts rest
    return text :: rest

end

/-- The form of an expected type in a message. A constant beyond the limit of digits has none. -/
def written (expected : Expected) : Except Fault Text :=
  match expected with
  | .plain kind => .ok ("<class '" ++ kind.qualified ++ "'>")
  | .memberOf enumeration => .ok ("<enum '" ++ enumeration.name ++ "'>")
  | .instanceOf name => .ok ("<class '" ++ qualifiedClass name ++ "'>")
  | expected => expected.inner

/-- The short name of an expected type, if it has one. -/
def shortName? : Expected → Option Text
  | .plain kind => some kind.name
  | .any => some "Any"
  | .union false alternatives => some (if isOptional alternatives then "Optional" else "Union")
  | .listOf _ => some "list"
  | .memberOf enumeration => some enumeration.name
  | .instanceOf name => some name
  | _ => none

/-- The name of an expected type in a message: the short one, or else the written form. -/
def name (expected : Expected) : Except Fault Text :=
  match expected.shortName? with
  | some name => .ok name
  | none => expected.written

end Expected
end Stencil
