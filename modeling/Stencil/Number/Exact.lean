import Stencil.Number.Decimal

/-!
# Exact values

Integers, floating numbers and decimals are compared by their exact values. Every finite number is
a coefficient times a power of ten, and has one normal form without zeros at the end of the
coefficient, so that two numbers are equal exactly if their normal forms are the same.
-/
namespace Stencil

/-- A coefficient times a power of ten, with a sign; in normal form the coefficient does not end
in a zero, and zero is positive with exponent zero. -/
structure Exact where
  /-- Whether the number is negative. -/
  negative : Bool
  /-- The coefficient. -/
  coefficient : Nat
  /-- The exponent of ten. -/
  exponent : Int
deriving DecidableEq, Repr

namespace Exact

/-- The coefficient without its last zeros, with their count. -/
def stripZeros (coefficient : Nat) : Nat × Nat :=
  if _ : coefficient ≠ 0 ∧ coefficient % 10 = 0 then
    let (stripped, count) := stripZeros (coefficient / 10)
    (stripped, count + 1)
  else (coefficient, 0)
termination_by coefficient
decreasing_by omega

/-- The normal form of a coefficient times a power of ten. -/
def normal (negative : Bool) (coefficient : Nat) (exponent : Int) : Exact :=
  if coefficient = 0 then ⟨false, 0, 0⟩
  else
    let (stripped, count) := stripZeros coefficient
    ⟨negative, stripped, exponent + count⟩

/-- The exact value of an integer. -/
def ofInt (n : Int) : Exact := normal (n < 0) n.natAbs 0

/-- The exact value of a significand times a power of two. -/
def ofBinary (negative : Bool) (significand : Nat) (exponent : Int) : Exact :=
  if 0 ≤ exponent then normal negative (significand <<< exponent.toNat) 0
  else normal negative (significand * Nat.pow 5 (-exponent).toNat) exponent

/-- Whether the first absolute value is less than the second: the place of the first digit
decides, and only between numbers of one place the digits do. -/
def absoluteLess (a b : Exact) : Bool :=
  if b.coefficient = 0 then false
  else if a.coefficient = 0 then true
  else
    let place := a.exponent + decimalLength a.coefficient
    let place' := b.exponent + decimalLength b.coefficient
    if place ≠ place' then place < place'
    else
      let base := min a.exponent b.exponent
      a.coefficient * powerOfTen (a.exponent - base).toNat <
        b.coefficient * powerOfTen (b.exponent - base).toNat

/-- Whether the first number is less than the second. -/
def less (a b : Exact) : Bool :=
  match a.negative, b.negative with
  | true, true => absoluteLess b a
  | true, false => true
  | false, true => false
  | false, false => absoluteLess a b

end Exact

/-- The value of a number on the extended line. -/
inductive Magnitude
  /-- Below all finite numbers. -/
  | below
  /-- A finite number. -/
  | finite (value : Exact)
  /-- Above all finite numbers. -/
  | above
deriving DecidableEq, Repr

/-- The value beyond all finite numbers of a sign. -/
def Magnitude.beyond (negative : Bool) : Magnitude := if negative then below else above

/-- Whether the first value is less than the second. -/
def Magnitude.less : Magnitude → Magnitude → Bool
  | below, below => false
  | below, _ => true
  | finite a, finite b => a.less b
  | finite _, above => true
  | _, _ => false

/-- The value of a floating number; an undefined one has none. -/
def Double.magnitude? : Double → Option Magnitude
  | finite negative significand exponent =>
    some (.finite (Exact.ofBinary negative significand exponent))
  | infinite negative => some (.beyond negative)
  | undefined _ => none

/-- The value of a decimal; an undefined one has none. -/
def Decimal.magnitude? : Decimal → Option Magnitude
  | finite negative coefficient exponent => some (.finite (.normal negative coefficient exponent))
  | infinite negative => some (.beyond negative)
  | undefined .. => none

end Stencil
