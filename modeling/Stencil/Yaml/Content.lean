import Stencil.Yaml.Basic
import Stencil.Yaml.Tag
import Stencil.Text.Base64
import Stencil.Value.Basic

/-!
# Values of scalars

The text of a scalar is read as its tag says. Underscores in numbers are passed over, integers may
be in base two, eight, ten, sixteen or sixty, and floating numbers in base ten or sixty.
-/
namespace Stencil.Yaml

/-- A number's text without underscores. -/
def withoutLines (text : Text) : Text := text.filter (· != '_')

/-- The integer of a text without underscores and sign. -/
def unsignedOf (text : Text) : Except Fault Int :=
  match text with
  | [] => .error .noDigits
  | ['0'] => .ok 0
  | '0' :: 'b' :: digits => readInt 2 digits
  | '0' :: 'x' :: digits => readInt 16 digits
  | '0' :: _ => readInt 8 text
  | _ => do
    if text.contains ':' then
      let parts ← (Text.splitOn ":" text).mapM (readInt 10)
      return parts.foldl (fun total part => total * 60 + part) 0
    else readInt 10 text

/-- The integer of a text. -/
def integerOf (text : Text) : Except Fault Int := do
  let (negative, unsigned) := splitSign (withoutLines text)
  let number ← unsignedOf unsigned
  return if negative then -number else number

/-- The sum of parts in base sixty, the last part first and its unit given. -/
def sixtyBasedSum (total : Double) (unit : Nat) : List Double → Double
  | [] => total
  | part :: parts => sixtyBasedSum (total.add (part.times unit)) (unit * 60) parts

/-- The floating number of a text. All undefined numbers of a document are one. -/
def floatOf (text : Text) : Except Fault Double := do
  let (negative, unsigned) := splitSign (Text.lower (withoutLines text))
  let signed := fun number : Double => if negative then number.negate else number
  if unsigned.isEmpty then .error .noDigits
  else if unsigned = ".inf" then return .infinite negative
  else if unsigned = ".nan" then return .undefined (some 0)
  else if unsigned.contains ':' then
    let parts ← (Text.splitOn ":" unsigned).mapM readDouble
    return signed (sixtyBasedSum .zero 1 parts.reverse)
  else return signed (← readDouble unsigned)

/-- The truth value of a word. -/
def truthOf (text : Text) : Except Fault Bool :=
  let word := Text.lower text
  match truthWords.lookup word with
  | some truth => .ok truth
  | none => .error (.missingKey (Text.quoted word))

/-- The moment of a text. -/
def momentOf (text : Text) : Except Fault Moment :=
  match Moment.read? text with
  | some moment => moment.check
  | none => .error (.noAttribute "NoneType" "groupdict")

/-- The bytes of a text in base 64. -/
def bytesOf (text : Text) : Except Refusal (List UInt8) :=
  if text.all fun char => char.toNat < 128 then
    match Text.bytesOfBase64 text with
    | some bytes => .ok bytes
    | none => .error (.malformed .content)
  else .error (.malformed .content)

/-- The value of a scalar; a tag that is none of scalars gives it none. -/
def scalarValue (tag : Tag) (text : Text) : Except Refusal Value :=
  match tag with
  | .nothing => .ok .nothing
  | .flag => ((truthOf text).mapError .failed).map .flag
  | .int => ((integerOf text).mapError .failed).map .int
  | .float => ((floatOf text).mapError .failed).map .double
  | .moment => ((momentOf text).mapError .failed).map .moment
  | .bytes => (bytesOf text).map .bytes
  | .text => .ok (.text text)
  | _ => .error (.malformed .content)

end Stencil.Yaml
