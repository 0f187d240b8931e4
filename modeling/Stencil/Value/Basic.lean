import Stencil.Number.Decimal
import Stencil.Moment

/-!
# Values

The values that templates are rendered from and operations are called with: plain data, members of
enumerations, objects that answer look-ups themselves, and references to objects whose attributes
can change. Collections keep their items in order.
-/
namespace Stencil

/-- What an object that answers look-ups itself does about a missing key. -/
inductive MissingKey
  /-- It reports the key as missing. -/
  | key
  /-- It reports an attribute as missing. -/
  | attribute
  /-- It fails with the key as its message. -/
  | failure
deriving DecidableEq, Repr

/-- What a routine is. -/
inductive RoutineKind
  /-- A function bound to an object or a class. -/
  | method
  /-- A function. -/
  | function
  /-- A predefined function. -/
  | predefined
  /-- A property seen from its class. -/
  | property
  /-- The sign of a comparison that leaves the answer to the other operand. -/
  | undecided
deriving DecidableEq, Repr

/-- What a routine is bound to. -/
inductive Holder
  /-- An object. -/
  | object (reference : Nat)
  /-- A class. -/
  | type (name : Text)
deriving DecidableEq, Repr

/-- A value of the language itself: something that can be called, or stands for something that can, or
a sign. -/
structure Routine where
  /-- What it is. -/
  kind : RoutineKind
  /-- The class that declares it; predefined routines have none. -/
  owner : Option Text
  /-- Its name there. -/
  name : Text
  /-- What it is bound to, if it is. -/
  holder : Option Holder
deriving DecidableEq, Repr

/-- A value. -/
inductive Value
  /-- The absent value. -/
  | nothing
  /-- A boolean. -/
  | flag (truth : Bool)
  /-- An integer. -/
  | int (number : Int)
  /-- A floating number. -/
  | double (number : Double)
  /-- A decimal. -/
  | decimal (number : Decimal)
  /-- A text. -/
  | text (content : Text)
  /-- Bytes. -/
  | bytes (content : List UInt8)
  /-- A date, or a date with a time. -/
  | moment (moment : Moment)
  /-- A list. -/
  | list (items : List Value)
  /-- A tuple. -/
  | tuple (items : List Value)
  /-- A set, its items in some order. -/
  | set (items : List Value)
  /-- A mapping, its entries in the order of insertion. -/
  | mapping (entries : List (Value × Value))
  /-- A member of an enumeration; enumerations of one name are told apart by their identity. -/
  | member (enumeration : Text) (identity : Nat) (name : Text) (value : Value)
  /-- An object that answers look-ups itself. -/
  | keyed (identity : Nat) (missing : MissingKey) (entries : List (Text × Value))
  /-- A reference to an object whose attributes can change. -/
  | object (reference : Nat)
  /-- A class. -/
  | type (name : Text)
  /-- A function, a method or a property, or a sign. -/
  | routine (routine : Routine)

/-- Where any value will do, there is the absent one. -/
instance : Inhabited Value := ⟨.nothing⟩

namespace Value

/-- A list of the items of a collection: a list, a tuple or a set. -/
def items? : Value → Option (List Value)
  | .list items | .tuple items | .set items => some items
  | _ => none

/-- The entries of a mapping. -/
def entries? : Value → Option (List (Value × Value))
  | .mapping entries => some entries
  | _ => none

/-- The text of a text value. -/
def text? : Value → Option Text
  | .text content => some content
  | _ => none

/-- A mapping whose keys are texts. -/
def ofEntries (entries : List (Text × Value)) : Value :=
  .mapping (entries.map fun (key, value) => (.text key, value))

end Value

/-- The word for a kind of routine. -/
def RoutineKind.word : RoutineKind → Text
  | method => "method"
  | function => "function"
  | predefined => "builtin_function_or_method"
  | property => "property"
  | undecided => "NotImplementedType"

/-- The text of a routine. -/
def Routine.written (routine : Routine) : Text :=
  match routine.kind with
  | .undecided => routine.name
  | kind => "<" ++ kind.word ++ " " ++ routine.name ++ ">"

/-- Whether a routine can be called. -/
def Routine.isCallable (routine : Routine) : Bool :=
  match routine.kind with
  | .method | .function | .predefined => true
  | .property | .undecided => false

/-- The sign of a comparison that leaves the answer to the other operand. -/
def Routine.undecided : Routine := ⟨.undecided, none, "NotImplemented", none⟩

/-- The word for the type of a value, given the classes of objects. -/
def Value.typeName (classOf : Nat → Text) : Value → Text
  | .nothing => "NoneType"
  | .flag _ => "bool"
  | .int _ => "int"
  | .double _ => "float"
  | .decimal _ => "Decimal"
  | .text _ => "str"
  | .bytes _ => "bytes"
  | .moment time => time.typeName
  | .list _ => "list"
  | .tuple _ => "tuple"
  | .set _ => "frozenset"
  | .mapping _ => "dict"
  | .member enumeration .. => enumeration
  | .keyed .. => "Kvc"
  | .object reference => classOf reference
  | .type _ => "type"
  | .routine held => held.kind.word

/-- The word for the type of an operand in a message about operators, which names decimals and
dates in full. -/
def Value.operandName (classOf : Nat → Text) (value : Value) : Text :=
  match value with
  | .decimal _ => "decimal.Decimal"
  | .moment time => "datetime." ++ time.typeName
  | value => value.typeName classOf

end Stencil
