import Stencil.Number.Reader
import Stencil.Moment

/-!
# Tags

A node's tag says what kind of value it stands for. A plain scalar without a tag is given one by
its text (`Tag.ofPlain`): texts that look like a number, a truth value, a date or nothing stand for
such values, and all others for themselves.
-/
namespace Stencil.Yaml

/-- What kind of value a node stands for. -/
inductive Tag
  /-- The absent value. -/
  | nothing
  /-- A boolean. -/
  | flag
  /-- An integer. -/
  | int
  /-- A floating number. -/
  | float
  /-- A date, or a date with a time. -/
  | moment
  /-- Bytes. -/
  | bytes
  /-- A text. -/
  | text
  /-- A list. -/
  | sequence
  /-- A mapping. -/
  | mapping
  /-- A set. -/
  | set
  /-- A list of pairs. -/
  | pairs
  /-- The key of mappings whose entries are added to others. -/
  | merge
  /-- The key of the value that stands for a mapping. -/
  | representative
  /-- Something unknown. -/
  | unknown
deriving DecidableEq, Repr

/-- What the names of the known tags begin with. -/
def tagSpace : Text := "tag:yaml.org,2002:"

/-- The tags by what follows the common beginning of their names. -/
def Tag.table : List (Text × Tag) :=
  [("null", .nothing), ("bool", .flag), ("int", .int), ("float", .float), ("timestamp", .moment),
    ("binary", .bytes), ("str", .text), ("seq", .sequence), ("map", .mapping), ("set", .set),
    ("omap", .pairs), ("pairs", .pairs), ("merge", .merge), ("value", .representative)]

/-- The tag of a name. -/
def Tag.ofName (name : Text) : Tag :=
  if name.startsWith tagSpace then
    ((Tag.table.lookup (name.drop tagSpace.length)).getD .unknown)
  else .unknown

/-- The words for truth values. -/
def truthWords : List (Text × Bool) :=
  [("yes", true), ("no", false), ("true", true), ("false", false), ("on", true), ("off", false)]

/-- The three ways to write a word: in small letters, with a capital, and in capitals. -/
def wordForms (word : Text) : List Text :=
  [word, Text.upper (word.take 1) ++ word.drop 1, Text.upper word]

/-- Whether a text is a word for a truth value. -/
def isTruthText (text : Text) : Bool :=
  (truthWords.flatMap fun entry => wordForms entry.1).contains text

/-- Whether a text stands for nothing. -/
def isNothingText (text : Text) : Bool :=
  text.isEmpty || text = "~" || (wordForms "null").contains text

/-- Whether a character is a digit of a base or an underscore. -/
def isDigitOrLine (base : Nat) (char : Char) : Bool := (baseDigit? base char).isSome || char == '_'

/-- Whether a text is not empty and of one class. -/
def isAll (holds : Char → Bool) (text : Text) : Bool := !text.isEmpty && text.all holds

/-- Whether a text begins with a digit and goes on with digits and underscores. -/
def isDigitRun : Text → Bool
  | first :: rest => first.isDigit && rest.all (isDigitOrLine 10)
  | [] => false

/-- Whether a text is a number below sixty in one or two digits. -/
def isSixtieth : Text → Bool
  | [digit] => digit.isDigit
  | [ten, digit] => (baseDigit? 6 ten).isSome && digit.isDigit
  | _ => false

/-- Whether a text consists of numbers between colons, all but the first below sixty. -/
def isSixtyBased (text : Text) : Bool :=
  match Text.splitOn ":" text with
  | first :: group :: groups => isDigitRun first && (group :: groups).all isSixtieth
  | _ => false

/-- Whether a plain text is an integer: in base two, eight, ten, sixteen or sixty. -/
def isIntegerText (text : Text) : Bool :=
  match (splitSign text).2 with
  | '0' :: [] => true
  | '0' :: mark :: digits =>
    isAll (isDigitOrLine 8) (mark :: digits) ||
      (mark == 'b' && isAll (isDigitOrLine 2) digits) ||
      (mark == 'x' && isAll (isDigitOrLine 16) digits)
  | unsigned => isDigitRun unsigned || isSixtyBased unsigned

/-- Whether nothing or an exponent with its sign is left of a number. -/
def isExponentRest : Text → Bool
  | [] => true
  | letter :: sign :: digits =>
    (letter == 'e' || letter == 'E') && (sign == '+' || sign == '-') && isAll Char.isDigit digits
  | _ => false

/-- Whether a fraction, with or without an exponent, is left of a number. -/
def isFractionRest (text : Text) : Bool := isExponentRest (text.dropWhile (isDigitOrLine 10))

/-- Whether a plain text is a floating number: it has a point, and its exponent has a sign. -/
def isFloatText (text : Text) : Bool :=
  let unsigned := (splitSign text).2
  let pointed :=
    match Text.cutAt '.' unsigned with
    | (whole, some rest) =>
      (isDigitRun whole && isFractionRest rest) ||
        (isSixtyBased whole && rest.all (isDigitOrLine 10))
    | (_, none) => false
  let leading :=
    match text with
    | '.' :: digit :: rest => digit.isDigit && isFractionRest rest
    | _ => false
  let infinite : List Text := [".inf", ".Inf", ".INF"]
  let undefined : List Text := [".nan", ".NaN", ".NAN"]
  pointed || leading || infinite.contains unsigned || undefined.contains text

/-- The tag of a plain scalar: the first kind of value whose texts it is one of. -/
def Tag.ofPlain (text : Text) : Tag :=
  if isTruthText text then .flag
  else if isFloatText text then .float
  else if isIntegerText text then .int
  else if text = "<<" then .merge
  else if isNothingText text then .nothing
  else if Moment.isPlainText text then .moment
  else if text = "=" then .representative
  else .text

end Stencil.Yaml
