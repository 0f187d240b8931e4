import Stencil.Value.Basic
import Stencil.Number.Exact

/-!
# Equality of values

Numbers of all types are compared by their exact values, with booleans as zero and one; an
undefined number equals none, but it is the same object as itself. Lists and tuples are equal item
by item, sets and mappings regardless of order, members and classes only to themselves. An object is
the same as itself; what else it is equal to is a matter of its class (`ObjectTest`). The comparison
fails on a signaling undefined decimal.
-/
namespace Stencil

/-- A number of one of the numeric types. -/
inductive Number
  /-- An integer. -/
  | int (number : Int)
  /-- A floating number. -/
  | double (number : Double)
  /-- A decimal. -/
  | decimal (number : Decimal)

/-- The number that a value stands for; booleans are zero and one. -/
def Value.number? : Value → Option Number
  | .flag truth => some (.int (if truth then 1 else 0))
  | .int number => some (.int number)
  | .double number => some (.double number)
  | .decimal number => some (.decimal number)
  | _ => none

namespace Number

/-- The value of a number; an undefined one has none. -/
def magnitude? : Number → Option Magnitude
  | int number => some (.finite (.ofInt number))
  | double number => number.magnitude?
  | decimal number => number.magnitude?

/-- Whether a number is a signaling undefined decimal. -/
def isSignaling : Number → Bool
  | decimal (.undefined true ..) => true
  | _ => false

/-- Whether a number is a decimal. -/
def isDecimal : Number → Bool
  | decimal _ => true
  | _ => false

/-- Whether two numbers have the same value. -/
def equal (a b : Number) : Except Fault Bool :=
  if a.isSignaling || b.isSignaling then .error .decimalInvalid
  else
    match a.magnitude?, b.magnitude? with
    | some a, some b => .ok (a == b)
    | _, _ => .ok false

/-- Whether two undefined numbers are one object. -/
def same : Number → Number → Bool
  | double (.undefined (some a)), double (.undefined (some b)) => a == b
  | decimal (.undefined _ _ _ (some a)), decimal (.undefined _ _ _ (some b)) => a == b
  | _, _ => false

end Number

/-- Two values compared as numbers: the same object, or of the same value. Values that are not both
numbers are not equal. -/
def Value.equalNumbers (a b : Value) : Except Fault Bool :=
  match a.number?, b.number? with
  | some a, some b => if a.same b then .ok true else a.equal b
  | _, _ => .ok false

/-- Whether a test that can fail holds of one of some items, looking no further than the first. -/
def holdsOfSome {α : Type} (test : α → Except Fault Bool) : List α → Except Fault Bool
  | [] => .ok false
  | item :: rest => do
    if ← test item then return true else holdsOfSome test rest

/-- The first entry whose key passes a test that can fail. -/
def firstPassing? {α β : Type} (test : α → Except Fault Bool) :
    List (α × β) → Except Fault (Option β)
  | [] => .ok none
  | (key, value) :: rest => do
    if ← test key then return some value else firstPassing? test rest

/-- Whether an object is equal to a value that is another object or none. -/
abbrev ObjectTest := Value → Value → Except Fault Bool

/-- Objects are equal to nothing but themselves. -/
def ObjectTest.apart : ObjectTest := fun _ _ => .ok false

mutual

/-- Whether two values are the same object or equal, given how objects are compared. -/
def Value.sameBy (test : ObjectTest) : Value → Value → Except Fault Bool
  | .nothing, .nothing => .ok true
  | .text a, .text b => .ok (a == b)
  | .bytes a, .bytes b => .ok (a == b)
  | .moment a, .moment b => .ok (a.same b)
  | .list a, .list b => if a.length = b.length then sameItems test a b else .ok false
  | .tuple a, .tuple b => if a.length = b.length then sameItems test a b else .ok false
  | .set a, .set b => if a.length = b.length then allWithin test a b else .ok false
  | .mapping a, .mapping b => if a.length = b.length then entriesWithin test a b else .ok false
  | .member _ a name _, .member _ b name' _ => .ok (a == b && name == name')
  | .keyed a .., .keyed b .. => .ok (a == b)
  | .object a, .object b => if a = b then .ok true else test (.object a) (.object b)
  | .object a, b => test (.object a) b
  | a, .object b => test a (.object b)
  | .type a, .type b => .ok (a == b)
  | .routine a, .routine b => .ok (a == b)
  | a, b => Value.equalNumbers a b

/-- Whether items are the same or equal one by one. -/
def sameItems (test : ObjectTest) : List Value → List Value → Except Fault Bool
  | a :: as, b :: bs => do
    if ← Value.sameBy test a b then sameItems test as bs else return false
  | _, _ => .ok true

/-- Whether each of some items is the same as one of others, or equal to it. -/
def allWithin (test : ObjectTest) : List Value → List Value → Except Fault Bool
  | [], _ => .ok true
  | a :: as, bs => do
    if ← holdsOfSome (fun b => Value.sameBy test a b) bs then allWithin test as bs
    else return false

/-- Whether each entry has an entry of the same key among others, with the same value. -/
def entriesWithin (test : ObjectTest) :
    List (Value × Value) → List (Value × Value) → Except Fault Bool
  | [], _ => .ok true
  | (key, value) :: rest, others => do
    match ← firstPassing? (fun key' => Value.sameBy test key key') others with
    | some value' =>
      if ← Value.sameBy test value value' then entriesWithin test rest others else return false
    | none => return false

end

/-- Whether two values are the same object or equal, objects being equal to nothing but
themselves. -/
def Value.same (a b : Value) : Except Fault Bool := Value.sameBy .apart a b

/-- Put items in order by a test that can fail, each behind all that do not come after it. -/
def insertSorted {α : Type} (comesBefore : α → α → Except Fault Bool) (item : α) :
    List α → Except Fault (List α)
  | [] => .ok [item]
  | other :: rest => do
    if ← comesBefore item other then return item :: other :: rest
    else return other :: (← insertSorted comesBefore item rest)

/-- The value of the entry of a key in a mapping. -/
def entryOf? (key : Value) (entries : List (Value × Value)) : Except Fault (Option Value) :=
  firstPassing? (fun other => Value.same other key) entries

end Stencil
