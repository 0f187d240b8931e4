import Stencil.Value.Equality

/-!
# Order of values

Numbers are ordered by value, texts and bytes by their characters, lists and tuples by their first
different items, sets by inclusion. Values of other types, or of two types, are not ordered.
-/
namespace Stencil

/-- A sign of order. -/
inductive OrderSign
  /-- Less than. -/
  | less
  /-- Greater than. -/
  | greater
deriving DecidableEq, Repr

/-- How a sign of order is written. -/
def OrderSign.written : OrderSign → Text
  | less => "<"
  | greater => ">"

/-- Decide a sign by the order "less than" of a type. -/
def OrderSign.decideBy {α : Type} (sign : OrderSign) (less : α → α → Bool) (a b : α) : Bool :=
  match sign with
  | .less => less a b
  | .greater => less b a

/-- Whether two numbers stand in an order. An undefined decimal, or an undefined number beside a
decimal, has none; other undefined numbers are neither less nor greater. -/
def Number.ordered (a : Number) (sign : OrderSign) (b : Number) : Except Fault Bool :=
  match a.magnitude?, b.magnitude? with
  | some a, some b => .ok (sign.decideBy Magnitude.less a b)
  | _, _ => if a.isDecimal || b.isDecimal then .error .decimalInvalid else .ok false

/-- Whether the first bytes come before the second. -/
def bytesBefore : List UInt8 → List UInt8 → Bool
  | _, [] => false
  | [], _ :: _ => true
  | a :: as, b :: bs => if a = b then bytesBefore as bs else a < b

/-- Whether a set is included in another and smaller. -/
def properlyWithin (a b : List Value) : Except Fault Bool :=
  if a.length < b.length then allWithin .apart a b else .ok false

mutual

/-- Whether two values stand in an order. -/
def Value.ordered (classOf : Nat → Text) (sign : OrderSign) :
    Value → Value → Except Fault Bool
  | .text a, .text b => .ok (sign.decideBy Text.before a b)
  | .bytes a, .bytes b => .ok (sign.decideBy bytesBefore a b)
  | .moment a, .moment b =>
    if a.isComparable b then
      .ok (sign.decideBy (fun a b : Int => a < b) a.instant b.instant)
    else
      .error (.ordering sign.written (Value.operandName classOf (.moment a))
        (Value.operandName classOf (.moment b)))
  | .list a, .list b => orderedItems classOf sign a b
  | .tuple a, .tuple b => orderedItems classOf sign a b
  | .set a, .set b =>
    match sign with
    | .less => properlyWithin a b
    | .greater => properlyWithin b a
  | a, b =>
    match a.number?, b.number? with
    | some a, some b => a.ordered sign b
    | _, _ =>
      .error (.ordering sign.written (a.operandName classOf) (b.operandName classOf))

/-- Whether items stand in an order: the first ones that are neither the same nor equal decide,
and the lengths if there are none. -/
def orderedItems (classOf : Nat → Text) (sign : OrderSign) :
    List Value → List Value → Except Fault Bool
  | a :: as, b :: bs => do
    if ← Value.same a b then orderedItems classOf sign as bs
    else Value.ordered classOf sign a b
  | as, bs => .ok (sign.decideBy (fun a b : List Value => a.length < b.length) as bs)

end

/-- The item that stands in an order to all others, given the best one so far; of equal items the
first is kept. -/
def extremeFrom (classOf : Nat → Text) (sign : OrderSign) :
    Value → List Value → Except Fault Value
  | best, [] => .ok best
  | best, item :: rest => do
    if ← Value.ordered classOf sign item best then extremeFrom classOf sign item rest
    else extremeFrom classOf sign best rest

end Stencil
