import Stencil.Annotation.Evaluation
import Stencil.Object.Heap

/-!
# Classes

A class has a lineage, which is the order in which the classes it inherits from are searched, and
members of its own: methods, values and properties. A world holds the enumerations and the classes
that are known, and what the language adds to them; it never changes.
-/
namespace Stencil

/-- What a method computes with. -/
inductive Expression
  /-- The value of a parameter, or the object or class that the method belongs to. -/
  | argument (name : Text)
  /-- A value. -/
  | constant (value : Value)
  /-- An attribute of the object or class that the method belongs to. -/
  | own (name : Text)
  /-- The values of all parameters in the order of their declaration. -/
  | arguments

/-- A step of a method. -/
inductive Statement
  /-- Set an attribute. -/
  | assign (name : Text) (value : Expression)
  /-- Add to an attribute. -/
  | increase (name : Text) (value : Expression)
  /-- End with a result. -/
  | give (value : Expression)
  /-- Fail with a fault of a kind. -/
  | fail (kind : Text) (value : Expression)

/-- How arguments reach a parameter. -/
inductive ParameterKind
  /-- By position only. -/
  | positionalOnly
  /-- By position or by name. -/
  | positional
  /-- All arguments beyond the positional parameters. -/
  | rest
  /-- By name only. -/
  | keywordOnly
  /-- All further arguments given by name. -/
  | keywordRest
deriving DecidableEq, Repr

namespace ParameterKind

/-- Whether one argument can reach the parameter by position. -/
def isPositional : ParameterKind → Bool
  | positionalOnly | positional => true
  | _ => false

end ParameterKind

/-- A parameter of a method. -/
structure Parameter where
  /-- Its name. -/
  name : Text
  /-- How arguments reach it. -/
  kind : ParameterKind
  /-- What it expects, if it says so. -/
  annotation : Option Annotated
  /-- Its value when no argument reaches it. -/
  default : Option Value

/-- What a method does: it takes steps, or it computes something else from the objects and the values
of its parameters. -/
inductive Body
  /-- Steps, one after another. -/
  | steps (steps : List Statement)
  /-- Any other computation. -/
  | computed (run : Heap → List (Text × Value) → Except Fault Value × Heap)

/-- What a method belongs to. -/
inductive MethodKind
  /-- Each object of the class. -/
  | ofObject
  /-- The class. -/
  | ofClass
  /-- Neither. -/
  | free
deriving DecidableEq, Repr

/-- A method. -/
structure Method where
  /-- The class that declares it, as messages name it. -/
  owner : Text
  /-- Its name. -/
  name : Text
  /-- The operation that its class shows it as declared for; an empty name declares none. -/
  operation : Option Text
  /-- What it belongs to. -/
  kind : MethodKind
  /-- Its parameters. A method of an object or a class receives it as the first argument. -/
  parameters : List Parameter
  /-- What it says about its result. -/
  result : Option Annotated
  /-- What it does. -/
  body : Body

/-- The parameter of an object that a method belongs to, as it is usually declared. -/
def Parameter.self : Parameter := ⟨"self", .positional, none, none⟩

/-- The parameter of a class that a method belongs to, as it is usually declared. -/
def Parameter.cls : Parameter := ⟨"cls", .positional, none, none⟩

/-- An attribute of objects that is computed whenever it is read. -/
structure Property where
  /-- What is read of the object at a reference. -/
  read : Heap → Nat → Except Fault Value
  /-- What setting it to a value does, if it can be set. -/
  write : Option (Heap → Nat → Value → Except Fault Unit × Heap)

/-- A property that has one value for all objects and cannot be set. -/
def Property.constant (value : Value) : Property := ⟨fun _ _ => .ok value, none⟩

/-- A member of a class. -/
inductive ClassMember
  /-- A method. -/
  | method (method : Method)
  /-- A value that all objects share, and the operation that an attribute of the value declares it
  for. -/
  | shared (value : Value) (operation : Option Text)
  /-- A property. -/
  | property (property : Property)
  /-- The predefined function that finds the greatest of its arguments. -/
  | greatest

/-- A class. -/
structure ClassInfo where
  /-- Its name. -/
  name : Text
  /-- The names of the classes to be searched for a member, this one first. -/
  lineage : List Text
  /-- Its own members, in order. -/
  members : List (Text × ClassMember)
  /-- Its own annotations, in order. -/
  annotations : List (Text × Annotated)

/-- Where an expression is evaluated. -/
inductive Place
  /-- Outside of classes, where functions and classes are known by name. -/
  | outside
  /-- In the body of a class, whose members are known too. -/
  | body (type : Text)

/-- What the language adds to the enumerations and classes of a world. -/
structure Language where
  /-- The attributes that a value has by its type, other than those of objects and classes of their
  own. -/
  attribute? : Value → Text → Option Value
  /-- What calling a predefined routine with arguments gives. -/
  call : Routine → List Value → Except Fault Value
  /-- The parameters that a predefined routine shows, if it shows any. -/
  parameters? : Routine → Option (List Parameter)
  /-- What texts denote that do not name an enumeration or a class. -/
  scope : Place → Scope

/-- The routine of a class that lists its lineage. -/
def lineageRoutine (type : Text) : Routine := ⟨.predefined, none, "mro", some (.type type)⟩

/-- The predefined function that finds the greatest of its arguments. -/
def greatestRoutine : Routine := ⟨.predefined, none, "max", none⟩

/-- The language as far as it is spelled out: dates have parts, classes a lineage, no other routine
can be called, and the predefined names are known everywhere. -/
def Language.standard : Language where
  attribute?
    | .moment time, name => (time.part? name).map fun part => .int part
    | .type type, name => if name = "mro" then some (.routine (lineageRoutine type)) else none
    | _, _ => none
  call routine _ := .error (.notCallable routine.kind.word)
  parameters? routine := if routine.name = "mro" then some [] else none
  scope _ := .predefined

/-- What is known. -/
structure World where
  /-- The enumerations. -/
  enumerations : List Enumeration
  /-- The classes. -/
  classes : List ClassInfo
  /-- What the language adds. -/
  language : Language

/-- A world of nothing but the language. -/
def World.empty : World := ⟨[], [], .standard⟩

namespace World

/-- The enumeration or the class that a text names. -/
def named? (world : World) (text : Text) : Option Expected :=
  let name := dropParentheses text
  match world.enumerations.find? fun enumeration => enumeration.name == name with
  | some enumeration => some (.memberOf enumeration)
  | none =>
    if (world.classes.map ClassInfo.name).contains name then some (.instanceOf name) else none

/-- What texts denote in a place. -/
def scope (world : World) (place : Place) : Scope := (world.language.scope place).extend world.named?

/-- The class of a name. -/
def find? (world : World) (name : Text) : Option ClassInfo :=
  world.classes.find? fun info => info.name == name

/-- The classes that are searched for a member of a class, in order. -/
def lineage (world : World) (name : Text) : List ClassInfo :=
  match world.find? name with
  | some info => info.lineage.filterMap world.find?
  | none => []

/-- The member of a class, with the name of the class that declares it: the first one along its
lineage. -/
def declared? (world : World) (type name : Text) : Option (Text × ClassMember) :=
  (world.lineage type).findSome? fun info =>
    (info.members.lookup name).map fun member => (info.name, member)

/-- The member of a class. -/
def member? (world : World) (type name : Text) : Option ClassMember :=
  (world.declared? type name).map Prod.snd

/-- The method that a routine is. -/
def method? (world : World) (routine : Routine) : Option Method := do
  let owner ← routine.owner
  let info ← world.find? owner
  match ← info.members.lookup routine.name with
  | .method method => some method
  | _ => none

end World

/-- Whether a name is no later than first in any of some sequences. -/
def leads (name : Text) (sequences : List (List Text)) : Bool :=
  sequences.all fun sequence => !(sequence.drop 1).contains name

/-- One order that agrees with all sequences: the first candidate at the head of a sequence that
comes later in none is taken, as often as there is one. -/
def mergeOrders : Nat → List (List Text) → List Text
  | 0, _ => []
  | fuel + 1, sequences =>
    let sequences := sequences.filter fun sequence => !sequence.isEmpty
    match (sequences.filterMap List.head?).find? fun name => leads name sequences with
    | none => []
    | some name =>
      name :: mergeOrders fuel
        (sequences.map fun sequence =>
          if sequence.head? = some name then sequence.tail else sequence)

/-- The lineage of a new class: the class, then the merged lineages of the classes it inherits
from. -/
def lineageOf (world : World) (name : Text) (bases : List Text) : List Text :=
  let lineages := bases.filterMap fun base => (world.find? base).map ClassInfo.lineage
  let sequences := lineages ++ [bases]
  name :: mergeOrders sequences.flatten.length sequences

/-- The world with one more class. -/
def World.declare (world : World) (name : Text) (bases : List Text)
    (members : List (Text × ClassMember)) (annotations : List (Text × Annotated)) : World :=
  let info : ClassInfo :=
    ⟨name, lineageOf world name bases, Text.lastEntries members, Text.lastEntries annotations⟩
  { world with classes := world.classes ++ [info] }

end Stencil
