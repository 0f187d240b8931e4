import Stencil.Number.Double
import Stencil.Text.Basic

/-!
# The shortest decimal of a floating number

A floating number is written with the fewest decimal digits that read back as the same number, and
of those with the digits nearest to it. `Double.written` lays the digits out as `DoubleLayout`
says.
-/
namespace Stencil

/-- The digits of a positive number and the position of its decimal point: the number is zero
point the digits, times ten to the position. -/
structure Digits where
  /-- The digits, the first and the last not zero. -/
  digits : Text
  /-- How many digits stand before the point. -/
  point : Int
deriving DecidableEq, Repr

/-- The numbers that read back as one floating number, over a common denominator. -/
structure ReadingInterval where
  /-- The numerator of the floating number. -/
  center : Nat
  /-- The numerator of the lower end. -/
  low : Nat
  /-- The numerator of the upper end. -/
  high : Nat
  /-- The common denominator. -/
  denominator : Nat
  /-- Whether the ends themselves read back. -/
  closed : Bool
deriving Repr

/-- The interval of a positive significand and its exponent: half way to the neighbours, of which
the lower one is nearer below a power of two. -/
def ReadingInterval.of (significand : Nat) (exponent : Int) : ReadingInterval :=
  let boundary :=
    significand = Nat.pow 2 (Double.precision - 1) && Double.leastExponent < exponent
  let scaled := fun n : Nat => if 0 ≤ exponent then n <<< exponent.toNat else n
  let denominator := if 0 ≤ exponent then 4 else 4 <<< (-exponent).toNat
  ⟨scaled (4 * significand), scaled (4 * significand - if boundary then 1 else 2),
    scaled (4 * significand + 2), denominator, significand % 2 = 0⟩

/-- Whether a multiple of a power of ten reads back. -/
def ReadingInterval.holds (interval : ReadingInterval) (multiple : Nat) (exponent : Int) : Bool :=
  let value := if 0 ≤ exponent then multiple * powerOfTen exponent.toNat * interval.denominator
    else multiple * interval.denominator
  let scale := if 0 ≤ exponent then 1 else powerOfTen (-exponent).toNat
  let low := interval.low * scale
  let high := interval.high * scale
  if interval.closed then low ≤ value && value ≤ high else low < value && value < high

/-- The multiple of a power of ten nearest to the number among its two neighbours that read back,
a tie going to the even one. -/
def ReadingInterval.nearest? (interval : ReadingInterval) (exponent : Int) : Option Nat :=
  let numerator := if 0 ≤ exponent then interval.center
    else interval.center * powerOfTen (-exponent).toNat
  let denominator := if 0 ≤ exponent then interval.denominator * powerOfTen exponent.toNat
    else interval.denominator
  let below := numerator / denominator
  let twice := 2 * (numerator % denominator)
  let preferBelow := twice < denominator || (twice = denominator && below % 2 = 0)
  let lower := if interval.holds below exponent then some below else none
  let upper := if interval.holds (below + 1) exponent then some (below + 1) else none
  if preferBelow then lower <|> upper else upper <|> lower

/-- The exponent of the least power of ten above a positive quotient. -/
def ceilingLog10 (numerator denominator : Nat) : Int :=
  let guess : Int := ((Nat.log2 numerator : Int) - Nat.log2 denominator) * 30103 / 100000
  let below := fun k : Int =>
    if 0 ≤ k then numerator < powerOfTen k.toNat * denominator
    else numerator * powerOfTen (-k).toNat < denominator
  match [guess - 1, guess, guess + 1].find? below with
  | some k => k
  | none => guess + 2

/-- The digits of a multiple of a power of ten, without zeros at the end. -/
def Digits.ofMultiple (multiple : Nat) (exponent : Int) : Digits :=
  let digits := natText multiple
  ⟨(digits.reverse.dropWhile (· = '0')).reverse, digits.length + exponent⟩

/-- The shortest digits of a positive number that read back: the first count of digits, from one
to seventeen, with a multiple that does. -/
def shortestDigits (significand : Nat) (exponent : Int) : Digits :=
  let interval := ReadingInterval.of significand exponent
  let magnitude := ceilingLog10 interval.center interval.denominator
  let found := (List.range 17).findSome? fun (count : Nat) =>
    let unit := magnitude - (count + 1 : Nat)
    (interval.nearest? unit).map fun multiple => Digits.ofMultiple multiple unit
  found.getD ⟨"0", 0⟩

/-- How digits are laid out as a number. -/
structure DoubleLayout where
  /-- Numbers whose point lies above this position are written without exponent. -/
  lowest : Int
  /-- Numbers whose point lies at most at this position are written without exponent. -/
  highest : Int
  /-- The least number of digits of an exponent. -/
  exponentWidth : Nat
  /-- What stands for a number outside the range. -/
  infinity : Text
  /-- What stands for no number. -/
  undefined : Text

/-- From a ten-thousandth up to ten to the sixteenth numbers are written without exponent; an
exponent has a sign and at least two digits. -/
def doubleLayout : DoubleLayout := ⟨-4, 16, 2, "inf", "nan"⟩

/-- An exponent with its sign, filled up with zeros. -/
def exponentText (width : Nat) (exponent : Int) : Text :=
  let digits := natText exponent.natAbs
  (if exponent < 0 then '-' else '+') :: List.replicate (width - digits.length) '0' ++ digits

/-- The digits laid out as a positive number. -/
def DoubleLayout.lay (layout : DoubleLayout) (number : Digits) : Text :=
  let count : Int := number.digits.length
  if layout.lowest < number.point && number.point ≤ layout.highest then
    if number.point ≤ 0 then
      "0." ++ List.replicate (-number.point).toNat '0' ++ number.digits
    else if count ≤ number.point then
      number.digits ++ List.replicate (number.point - count).toNat '0' ++ ".0"
    else
      number.digits.take number.point.toNat ++ "." ++ number.digits.drop number.point.toNat
  else
    let exponent := "e" ++ exponentText layout.exponentWidth (number.point - 1)
    match number.digits with
    | first :: second :: rest => first :: '.' :: second :: rest ++ exponent
    | digits => digits ++ exponent

/-- A sign put before a number's text. -/
def signed (negative : Bool) (text : Text) : Text := if negative then '-' :: text else text

/-- A floating number as text. -/
def Double.written : Double → Text
  | .finite negative significand exponent =>
    signed negative
      (if significand = 0 then "0.0" else doubleLayout.lay (shortestDigits significand exponent))
  | .infinite negative => signed negative doubleLayout.infinity
  | .undefined _ => doubleLayout.undefined

end Stencil
