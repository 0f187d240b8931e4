import Stencil.Value.Basic
import Stencil.Text.Basic

/-!
# Objects

Objects have attributes that can change. They live in a heap and are known by reference. The heap also
tells undefined numbers apart: one that has just been made has no identity until it is kept
(`Heap.identify`).
-/
namespace Stencil

/-- What an object is an instance of. -/
inductive ObjectType
  /-- A class with nothing but a name. -/
  | plain (name : Text)
  /-- A class of the world. -/
  | declared (name : Text)
deriving DecidableEq, Repr

/-- The name of an object's class. -/
def ObjectType.name : ObjectType → Text
  | plain name | declared name => name

/-- An object. -/
structure Instance where
  /-- What it is an instance of. -/
  type : ObjectType
  /-- Its own attributes. -/
  attributes : List (Text × Value)

mutual

/-- A value in which each undefined number without an identity is given one, from a first one on, with
the identity that comes next. -/
def Value.identify (next : Nat) : Value → Value × Nat
  | .double (.undefined none) => (.double (.undefined (some next)), next + 1)
  | .decimal (.undefined signaling negative payload none) =>
    (.decimal (.undefined signaling negative payload (some next)), next + 1)
  | .list items =>
    let (items, next) := identifyItems next items
    (.list items, next)
  | .tuple items =>
    let (items, next) := identifyItems next items
    (.tuple items, next)
  | .set items =>
    let (items, next) := identifyItems next items
    (.set items, next)
  | .mapping entries =>
    let (entries, next) := identifyEntries next entries
    (.mapping entries, next)
  | value => (value, next)

/-- Items in which each undefined number has an identity. -/
def identifyItems (next : Nat) : List Value → List Value × Nat
  | [] => ([], next)
  | item :: rest =>
    let (item, next) := Value.identify next item
    let (rest, next) := identifyItems next rest
    (item :: rest, next)

/-- Entries in which each undefined number has an identity. -/
def identifyEntries (next : Nat) : List (Value × Value) → List (Value × Value) × Nat
  | [] => ([], next)
  | (key, value) :: rest =>
    let (key, next) := Value.identify next key
    let (value, next) := Value.identify next value
    let (rest, next) := identifyEntries next rest
    ((key, value) :: rest, next)

end

/-- The objects, each at the position that refers to it. -/
structure Heap where
  /-- The objects. -/
  objects : Array Instance
  /-- The first identity that no undefined number has. -/
  identities : Nat

namespace Heap

/-- A heap of some objects. -/
def ofObjects (objects : List Instance) : Heap := ⟨objects.toArray, 0⟩

/-- No objects. -/
def empty : Heap := ofObjects []

/-- The object at a reference. -/
def object? (heap : Heap) (reference : Nat) : Option Instance := heap.objects[reference]?

/-- A new object, with the reference to it. -/
def allocate (heap : Heap) (object : Instance) : Nat × Heap :=
  (heap.objects.size, { heap with objects := heap.objects.push object })

/-- Set an object's own attribute. -/
def put (heap : Heap) (reference : Nat) (name : Text) (value : Value) : Heap :=
  match heap.object? reference with
  | some object =>
    let object := { object with attributes := Text.putEntry name value object.attributes }
    { heap with objects := heap.objects.setIfInBounds reference object }
  | none => heap

/-- A value that is kept from now on, each undefined number in it with an identity. -/
def identify (heap : Heap) (value : Value) : Value × Heap :=
  let (value, identities) := value.identify heap.identities
  (value, { heap with identities })

/-- Values that are kept from now on, each undefined number in them with an identity. -/
def identifyAll (heap : Heap) (values : List Value) : List Value × Heap :=
  let (values, identities) := identifyItems heap.identities values
  (values, { heap with identities })

end Heap
end Stencil
