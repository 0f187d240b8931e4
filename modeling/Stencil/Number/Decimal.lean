import Stencil.Number.Double
import Stencil.Number.Shortest
import Stencil.Fault

/-!
# Decimal numbers

Decimal numbers keep the digits they were written with: a coefficient times a power of ten.
Reading and writing are exact; sums and quotients are rounded to 28 digits, a half to the even
neighbour, within the range of `DecimalContext`.
-/
namespace Stencil

/-- A decimal number. -/
inductive Decimal
  /-- A coefficient times a power of ten, with a sign. -/
  | finite (negative : Bool) (coefficient : Nat) (exponent : Int)
  /-- A number outside the range. -/
  | infinite (negative : Bool)
  /-- No number; a signaling one refuses every operation. The payload is a diagnosis. -/
  | undefined (signaling negative : Bool) (payload : Nat) (identity : Identity)
deriving DecidableEq, Repr

/-- The precision and the range of the results of operations. -/
structure DecimalContext where
  /-- The most digits of a coefficient. -/
  precision : Nat
  /-- The greatest exponent of a number's first digit. -/
  highest : Int
  /-- The least exponent of a normal number's first digit. -/
  lowest : Int

/-- The least exponent of a coefficient. -/
def DecimalContext.tiny (context : DecimalContext) : Int := context.lowest - context.precision + 1

/-- The greatest exponent of a full coefficient. -/
def DecimalContext.top (context : DecimalContext) : Int := context.highest - context.precision + 1

/-- Operations keep 28 digits and exponents of six digits. -/
def decimalContext : DecimalContext := ⟨28, 999999, -999999⟩

namespace Decimal

/-- A decimal as text: without exponent when the exponent is not positive and the first digit
stands at most seven places behind the point. -/
def written : Decimal → Text
  | finite negative coefficient exponent =>
    let digits := natText coefficient
    let left : Int := exponent + digits.length
    let point : Int := if exponent ≤ 0 && -6 < left then left else 1
    let body : Text :=
      if point ≤ 0 then "0." ++ List.replicate (-point).toNat '0' ++ digits
      else if (digits.length : Int) ≤ point then
        digits ++ List.replicate (point - digits.length).toNat '0'
      else digits.take point.toNat ++ "." ++ digits.drop point.toNat
    let tail : Text := if left = point then [] else "E" ++ exponentText 1 (left - point)
    signed negative (body ++ tail)
  | infinite negative => signed negative "Infinity"
  | undefined signaling negative payload _ =>
    let word : Text := if signaling then "sNaN" else "NaN"
    signed negative (word ++ if payload = 0 then [] else natText payload)

/-- A coefficient rounded to fewer digits: the digits below a power of ten are dropped, a half
going to the even neighbour. -/
def dropDigits (coefficient count : Nat) : Nat := roundedQuotient coefficient (powerOfTen count)

/-- A finite result brought into the context: zero's exponent is clamped, a long coefficient is
rounded, and a number beyond the range is refused. -/
def fit (context : DecimalContext) (negative : Bool) (coefficient : Nat) (exponent : Int) :
    Except Fault Decimal :=
  if coefficient = 0 then
    .ok (finite negative 0 (min (max exponent context.tiny) context.highest))
  else
    let length := decimalLength coefficient
    let full := (length : Int) + exponent - context.precision
    if context.top < full then .error .decimalOverflow
    else
      let least := max full context.tiny
      if exponent < least then
        if (length : Int) + exponent < least then .ok (finite negative 0 least)
        else
          let rounded := dropDigits coefficient (least - exponent).toNat
          let (rounded, least) :=
            if decimalLength rounded > context.precision then (rounded / 10, least + 1)
            else (rounded, least)
          if context.top < least then .error .decimalOverflow
          else .ok (finite negative rounded least)
      else .ok (finite negative coefficient exponent)

/-- The result of an operation with an undefined operand: the operand's diagnosis, cut to the
precision. -/
def quiet (context : DecimalContext) (negative : Bool) (payload : Nat) : Decimal :=
  undefined false negative (payload % powerOfTen context.precision) none

/-- The result of an operation with an undefined operand, if there is one: a signaling one is
refused, and the first quiet one is the result. -/
def undefinedOperand? (context : DecimalContext) : Decimal → Decimal → Option (Except Fault Decimal)
  | undefined true .., _ | _, undefined true .. => some (.error .decimalInvalid)
  | undefined false negative payload _, _ => some (.ok (quiet context negative payload))
  | _, undefined false negative payload _ => some (.ok (quiet context negative payload))
  | _, _ => none

/-- The sum of two finite numbers that are not zero. A term too small to matter is replaced by the
least one that has the same effect on rounding. -/
def addNonzero (context : DecimalContext) (negative : Bool) (coefficient : Nat) (exponent : Int)
    (negative' : Bool) (coefficient' : Nat) (exponent' : Int) : Except Fault Decimal :=
  let clip := fun (large : Nat) (largeExponent : Int) (small : Nat) (smallExponent : Int) =>
    let least :=
      largeExponent + min (-1) ((decimalLength large : Int) - context.precision - 2)
    if decimalLength small + smallExponent - 1 < least then (1, least)
    else (small, smallExponent)
  let (first, firstExponent, second, secondExponent) :=
    if exponent < exponent' then
      let (small, smallExponent) := clip coefficient' exponent' coefficient exponent
      (small, smallExponent, coefficient', exponent')
    else
      let (small, smallExponent) := clip coefficient exponent coefficient' exponent'
      (coefficient, exponent, small, smallExponent)
  let base := min firstExponent secondExponent
  let total :=
    Double.signedInt negative (first * powerOfTen (firstExponent - base).toNat) +
      Double.signedInt negative' (second * powerOfTen (secondExponent - base).toNat)
  if total = 0 then fit context false 0 (min exponent exponent')
  else fit context (total < 0) total.natAbs base

/-- The sum of two numbers. -/
def add (context : DecimalContext) (left right : Decimal) : Except Fault Decimal :=
  match undefinedOperand? context left right with
  | some result => result
  | none =>
    match left, right with
    | infinite s, infinite s' => if s = s' then .ok (infinite s) else .error .decimalInvalid
    | infinite s, _ => .ok (infinite s)
    | _, infinite s => .ok (infinite s)
    | finite s c e, finite s' c' e' =>
      if c = 0 && c' = 0 then fit context (s && s') 0 (min e e')
      else if c = 0 then
        let least := max (min e e') (e' - context.precision - 1)
        fit context s' (c' * powerOfTen (e' - least).toNat) least
      else if c' = 0 then
        let least := max (min e e') (e - context.precision - 1)
        fit context s (c * powerOfTen (e - least).toNat) least
      else addNonzero context s c e s' c' e'
    | _, _ => .error .decimalInvalid

/-- A coefficient without its last zeros, as long as the exponent stays at most at a limit. -/
def towardExponent (limit : Int) : Nat → Nat → Int → Nat × Int
  | 0, coefficient, exponent => (coefficient, exponent)
  | fuel + 1, coefficient, exponent =>
    if exponent < limit && coefficient % 10 = 0 then
      towardExponent limit fuel (coefficient / 10) (exponent + 1)
    else (coefficient, exponent)

/-- The quotient by a positive whole number. -/
def divideBy (dividend : Decimal) (context : DecimalContext) (divisor : Nat) :
    Except Fault Decimal :=
  match undefinedOperand? context dividend (finite false divisor 0) with
  | some result => result
  | none =>
    match dividend with
    | finite negative coefficient exponent =>
      if coefficient = 0 then fit context negative 0 exponent
      else
        let shift : Int :=
          (decimalLength divisor : Int) - decimalLength coefficient + context.precision + 1
        let numerator := if 0 ≤ shift then coefficient * powerOfTen shift.toNat else coefficient
        let denominator := if 0 ≤ shift then divisor else divisor * powerOfTen (-shift).toNat
        let quotient := numerator / denominator
        if numerator % denominator = 0 then
          let (quotient, least) :=
            towardExponent exponent shift.toNat quotient (exponent - shift)
          fit context negative quotient least
        else
          fit context negative (if quotient % 5 = 0 then quotient + 1 else quotient)
            (exponent - shift)
    | infinite negative => .ok (infinite negative)
    | undefined .. => .error .decimalInvalid

end Decimal
end Stencil
