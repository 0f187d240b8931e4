import Stencil.Number.Rounding

/-!
# Binary floating numbers

Floating numbers with a significand of 53 bits and the exponents of the 64-bit format, held
exactly as a significand times a power of two. Every operation rounds its exact result once, a
half to the even significand (`Double.ofRatio`).
-/
namespace Stencil

/-- What tells one undefined number from another: undefined numbers that come from one source are
the same object, and one that was computed is no other's. -/
abbrev Identity := Option Nat

/-- A binary floating number. -/
inductive Double
  /-- A significand times a power of two, with a sign. -/
  | finite (negative : Bool) (significand : Nat) (exponent : Int)
  /-- A number outside the range. -/
  | infinite (negative : Bool)
  /-- No number. -/
  | undefined (identity : Identity)
deriving DecidableEq, Repr

namespace Double

/-- The least exponent of a significand. -/
def leastExponent : Int := -1074

/-- The greatest exponent of a significand. -/
def greatestExponent : Int := 971

/-- The bits of a significand. -/
def precision : Nat := 53

/-- Zero. -/
def zero : Double := finite false 0 leastExponent

/-- The exponent of the greatest power of two that does not exceed a positive quotient. -/
def floorLog2 (numerator denominator : Nat) : Int :=
  let guess : Int := (Nat.log2 numerator : Int) - Nat.log2 denominator
  let fits :=
    if 0 ≤ guess then denominator <<< guess.toNat ≤ numerator
    else denominator ≤ numerator <<< (-guess).toNat
  if fits then guess else guess - 1

/-- The floating number nearest to a quotient, given the sign; a half goes to the even
significand, and what rounds beyond the greatest number is infinite. -/
def ofRatio (negative : Bool) (numerator denominator : Nat) : Double :=
  if numerator = 0 then finite negative 0 leastExponent
  else
    let exponent := max (floorLog2 numerator denominator - (precision - 1 : Nat)) leastExponent
    let significand :=
      if 0 ≤ exponent then roundedQuotient numerator (denominator <<< exponent.toNat)
      else roundedQuotient (numerator <<< (-exponent).toNat) denominator
    let (significand, exponent) :=
      if significand = Nat.pow 2 precision then (Nat.pow 2 (precision - 1), exponent + 1)
      else (significand, exponent)
    if greatestExponent < exponent then infinite negative
    else finite negative significand exponent

/-- The floating number nearest to a coefficient times a power of ten. Exponents far outside the
range are settled without computing the power. -/
def ofDecimal (negative : Bool) (coefficient : Nat) (exponent : Int) : Double :=
  if coefficient = 0 then finite negative 0 leastExponent
  else
    let magnitude := exponent + decimalLength coefficient
    if magnitude > 400 then infinite negative
    else if magnitude < -400 then finite negative 0 leastExponent
    else if 0 ≤ exponent then ofRatio negative (coefficient * powerOfTen exponent.toNat) 1
    else ofRatio negative coefficient (powerOfTen (-exponent).toNat)

/-- The floating number nearest to an integer, if the integer lies in the range. -/
def ofInt? (n : Int) : Option Double :=
  match ofRatio (n < 0) n.natAbs 1 with
  | finite negative significand exponent => some (finite negative significand exponent)
  | _ => none

/-- The floating number nearest to the quotient of two integers, the divisor positive, if it lies
in the range. The quotient of zero has no sign. -/
def ofQuotient? (dividend : Int) (divisor : Nat) : Option Double :=
  match ofRatio (dividend < 0) dividend.natAbs divisor with
  | finite negative significand exponent => some (finite negative significand exponent)
  | _ => none

/-- An integer with the given sign and absolute value. -/
def signedInt (negative : Bool) (absolute : Nat) : Int :=
  if negative then -(absolute : Int) else absolute

/-- The sum of two finite numbers. A zero sum is negative only if both terms are. -/
def addFinite (negative : Bool) (significand : Nat) (exponent : Int)
    (negative' : Bool) (significand' : Nat) (exponent' : Int) : Double :=
  let base := min exponent exponent'
  let total :=
    signedInt negative (significand <<< (exponent - base).toNat) +
      signedInt negative' (significand' <<< (exponent' - base).toNat)
  if total = 0 then finite (negative && negative') 0 leastExponent
  else if 0 ≤ base then ofRatio (total < 0) (total.natAbs <<< base.toNat) 1
  else ofRatio (total < 0) total.natAbs (1 <<< (-base).toNat)

/-- The sum of two numbers. Opposite infinities have none, and a sum with an undefined term is
undefined. -/
def add : Double → Double → Double
  | finite s m e, finite s' m' e' => addFinite s m e s' m' e'
  | undefined _, _ | _, undefined _ => undefined none
  | infinite s, infinite s' => if s = s' then infinite s else undefined none
  | infinite s, finite .. => infinite s
  | finite .., infinite s => infinite s

/-- The quotient by a finite positive number. -/
def divideBy (dividend divisor : Double) : Double :=
  match dividend with
  | finite negative significand exponent =>
    match divisor with
    | finite _ significand' exponent' =>
      let shift := exponent - exponent'
      if 0 ≤ shift then ofRatio negative (significand <<< shift.toNat) significand'
      else ofRatio negative significand (significand' <<< (-shift).toNat)
    | infinite _ => finite negative 0 leastExponent
    | undefined _ => undefined none
  | infinite negative => infinite negative
  | undefined _ => undefined none

/-- The number with the opposite sign. -/
def negate : Double → Double
  | finite negative significand exponent => finite (!negative) significand exponent
  | infinite negative => infinite (!negative)
  | undefined identity => undefined identity

/-- The product with a natural number. -/
def times (number : Double) (factor : Nat) : Double :=
  match number with
  | finite negative significand exponent =>
    if 0 ≤ exponent then ofRatio negative ((significand * factor) <<< exponent.toNat) 1
    else ofRatio negative (significand * factor) (1 <<< (-exponent).toNat)
  | infinite negative => if factor = 0 then undefined none else infinite negative
  | undefined _ => undefined none

end Double
end Stencil
