import Stencil.Number.Decimal
import Stencil.Text.Blank
import Stencil.Text.Digit
import Stencil.Text.Case

/-!
# Numbers from text

The written forms that integers, floating numbers and decimals are read from. Digits of any script
are digits, and blanks at the ends are skipped. Underscores may stand between the digits of
integers and floating numbers, and anywhere in a decimal.
-/
namespace Stencil

/-- The value of digits in a base, the first digit the most significant. -/
def digitsValue (base : Nat) (digits : List Nat) : Nat :=
  digits.foldl (fun value digit => value * base + digit) 0

/-- The value of a character as a digit up to `z`. -/
def alphanumericValue? (char : Char) : Option Nat :=
  if char.isDigit then some (char.toNat - 48)
  else if Text.isSmall char then some (char.toNat - 87)
  else if Text.isCapital char then some (char.toNat - 55)
  else none

/-- The value of a character as a digit of a base. -/
def baseDigit? (base : Nat) (char : Char) : Option Nat :=
  (alphanumericValue? char).filter (· < base)

/-- The text between the blanks that a number's reader skips, with ASCII digits. -/
def numberText (text : Text) : Text :=
  (Text.trim Text.isNumberBlank text).map Text.plainDigit

/-- A sign at the beginning of a text, and the text after it. -/
def splitSign : Text → Bool × Text
  | '-' :: rest => (true, rest)
  | '+' :: rest => (false, rest)
  | text => (false, text)

/-- The digits at the beginning of a text, single underscores between them passed over, and what
follows them. `after` says whether a digit stands directly before, as it must before an
underscore; no digits, or an underscore that no digit follows, are refused. -/
def takeDigits (base : Nat) : Bool → Text → Option (List Nat × Text)
  | after, [] => if after then some ([], []) else none
  | after, char :: rest =>
    match baseDigit? base char with
    | some digit => (takeDigits base true rest).map fun (digits, left) => (digit :: digits, left)
    | none =>
      if char = '_' && after then takeDigits base false rest
      else if after then some ([], char :: rest)
      else none

/-- The letter that marks the digits of a base. -/
def baseMark? (base : Nat) : Option Char :=
  if base = 2 then some 'b'
  else if base = 8 then some 'o'
  else if base = 16 then some 'x'
  else none

/-- The mark that may stand before the digits of a base, and an underscore directly after it, taken
away. -/
def dropBaseMark (base : Nat) : Text → Text
  | '0' :: letter :: rest =>
    if baseMark? base = some letter.toLower then
      match rest with
      | '_' :: digits => digits
      | digits => digits
    else '0' :: letter :: rest
  | text => text

/-- An integer in base two, eight, ten or sixteen. Only base ten limits the number of digits, and
the limit is looked at before what follows the digits. -/
def readInt (base : Nat) (text : Text) : Except Fault Int :=
  let (negative, unsigned) := splitSign (numberText text)
  match takeDigits base false (dropBaseMark base unsigned) with
  | none => .error (.notInteger base text)
  | some (digits, rest) =>
    if base = 10 ∧ integerDigitLimit < digits.length then
      .error (.digitLimit (some digits.length))
    else if rest.isEmpty then .ok (Double.signedInt negative (digitsValue base digits))
    else .error (.notInteger base text)

/-- An integer in decimal digits; one with more digits than the limit is refused. -/
def writeInt (n : Int) : Except Fault Text :=
  let text := intText n
  if integerDigitLimit < decimalLength n.natAbs then .error (.digitLimit none) else .ok text

/-- A coefficient and an exponent of ten, as a number in decimal notation gives them. -/
structure Scientific where
  /-- The coefficient. -/
  coefficient : Nat
  /-- The exponent of ten. -/
  exponent : Int
deriving DecidableEq, Repr

/-- The characters of a text as long as they are decimal digits, and the rest. -/
def spanDigits (text : Text) : Text × Text := text.span Char.isDigit

/-- The value of a text of ASCII digits. -/
def plainValue (digits : Text) : Nat :=
  digitsValue 10 (digits.map fun digit => digit.toNat - 48)

/-- An exponent after its letter: digits with an optional sign. -/
def readExponent (text : Text) : Option Int :=
  let (negative, digits) := splitSign text
  if digits.isEmpty || !digits.all Char.isDigit then none
  else some (Double.signedInt negative (plainValue digits))

/-- A number without sign: digits with an optional point, at least one of them, and an optional
exponent. -/
def readScientific (text : Text) : Option Scientific :=
  let (whole, rest) := spanDigits text
  let (fraction, rest) :=
    match rest with
    | '.' :: rest => spanDigits rest
    | _ => ([], rest)
  let digits := whole ++ fraction
  if digits.isEmpty then none
  else
    let exponent? :=
      match rest with
      | [] => some 0
      | letter :: rest => if letter = 'e' || letter = 'E' then readExponent rest else none
    exponent?.map fun exponent => ⟨plainValue digits, exponent - fraction.length⟩

/-- A text without its underscores, each of which must stand between two digits. -/
def dropUnderscores : Option Char → Text → Option Text
  | _, [] => some []
  | before, '_' :: rest =>
    match before, rest with
    | some char, next :: _ =>
      if char.isDigit && next.isDigit then dropUnderscores (some '_') rest else none
    | _, _ => none
  | _, char :: rest => (dropUnderscores (some char) rest).map (char :: ·)

/-- A floating number. -/
def readDouble? (identity : Identity) (text : Text) : Option Double := do
  let plain ← dropUnderscores none (numberText text)
  let (negative, unsigned) := splitSign plain
  let word := unsigned.flatMap Text.lowerChar
  if word = "inf" || word = "infinity" then return .infinite negative
  else if word = "nan" then return .undefined identity
  else
    let number ← readScientific unsigned
    return .ofDecimal negative number.coefficient number.exponent

/-- A floating number read from text; an undefined one is like no other. -/
def readDouble (text : Text) : Except Fault Double :=
  match readDouble? none text with
  | some number => .ok number
  | none => .error (.notFloat text)

/-- The greatest exponent of a decimal's first digit. -/
def decimalHighest : Int := 999999999999999999

/-- The least exponent of a decimal's coefficient. -/
def decimalLowest : Int := -1999999999999999997

/-- A finite decimal, if its exponent lies in the range. -/
def boundedDecimal? (negative : Bool) (number : Scientific) : Option Decimal :=
  let first :=
    if number.coefficient = 0 then number.exponent
    else number.exponent + decimalLength number.coefficient - 1
  if first ≤ decimalHighest && decimalLowest ≤ number.exponent then
    some (.finite negative number.coefficient number.exponent)
  else none

/-- A decimal: a number, an infinity, or no number with a diagnosis in digits. -/
def readDecimal? (identity : Identity) (text : Text) : Option Decimal :=
  let plain := ((Text.strip text).filter (· != '_')).map Text.plainDigit
  let (negative, unsigned) := splitSign plain
  let word := unsigned.flatMap Text.lowerChar
  let diagnosis? := fun (signaling : Bool) (digits : Text) =>
    if digits.all Char.isDigit then
      some (Decimal.undefined signaling negative (plainValue digits) identity)
    else none
  match word with
  | 'n' :: 'a' :: 'n' :: digits => diagnosis? false digits
  | 's' :: 'n' :: 'a' :: 'n' :: digits => diagnosis? true digits
  | _ =>
    if word = "inf" || word = "infinity" then some (.infinite negative)
    else (readScientific unsigned).bind (boundedDecimal? negative)

end Stencil
