import Stencil.Yaml.Scalar
import Stencil.Yaml.Tag
import Stencil.Value.Printer

/-!
# Writing documents

A mapping is written one entry a line. A text stands plainly where it is read back as itself,
between single quotes where it would be taken for something else, and between double quotes where
it holds a character that must be escaped. Long texts are broken at spaces.
-/
namespace Stencil.Yaml

/-- Where a scalar is written. -/
structure Room where
  /-- How many characters stand before it on its line. -/
  column : Nat
  /-- How far the lines are indented that it goes on with. -/
  indent : Nat
  /-- Whether it may go on with other lines. -/
  breakable : Bool

/-- Beyond this column a text is broken at the next space. -/
def bestWidth : Nat := 80

/-- A new line, indented. -/
def newLine (indent : Nat) : Text := '\n' :: List.replicate indent ' '

/-- Whether a character stands for itself between single quotes. -/
def isOrdinary (char : Char) : Bool :=
  char == '\n' || (0x20 ≤ char.toNat && char.toNat ≤ 0x7E)

/-- Whether one of two characters stands directly before the other somewhere in a text. -/
def holdsPair (first second : Char) : Text → Bool
  | a :: b :: rest => (a == first && b == second) || holdsPair first second (b :: rest)
  | _ => false

/-- Whether a sign that ends or begins a part of a document stands in the rest of a text, given
whether a blank stands before it. -/
def holdsSign (afterBlank : Bool) : Text → Bool
  | [] => false
  | char :: rest =>
    (char == ':' && endsWord rest) || (char == '#' && afterBlank) ||
      holdsSign (isBlank char || isBreak char) rest

/-- Whether a text begins with a sign of a document. -/
def beginsWithSign : Text → Bool
  | [] => false
  | char :: rest =>
    let signs : Text := "#,[]\x7b\x7d&*!|>'\"%@`"
    signs.contains char || ((char == '?' || char == ':' || char == '-') && endsWord rest)

/-- Whether a text has a space or a line break at one of its ends. -/
def hasBareEnd (text : Text) : Bool :=
  let isBare := fun (char : Option Char) => char == some ' ' || char == some '\n'
  isBare text.head? || isBare text.getLast?

/-- Whether a text can be written plainly: it is read as a text and holds no sign of a document. -/
def isPlain (text : Text) : Bool :=
  Tag.ofPlain text == .text && text.all isOrdinary && !text.contains '\n' && !hasBareEnd text &&
    !(text.startsWith "---" || text.startsWith "...") && !beginsWithSign text &&
    !holdsSign true text

/-- Whether a text can be written between single quotes: lines neither end nor begin with a
space. -/
def isSingleQuotable (text : Text) : Bool :=
  text.all isOrdinary && !holdsPair ' ' '\n' text && !holdsPair '\n' ' ' text

/-- Write the rest of a text that is broken at single spaces beyond the best width. -/
def spacedFrom (room : Room) (column : Nat) (before : Option Char) : Text → Text
  | [] => []
  | char :: rest =>
    let isLone := char == ' ' && before.isSome && before != some ' ' &&
      rest.head?.any (· != ' ')
    if room.breakable && isLone && bestWidth < column then
      newLine room.indent ++ spacedFrom room room.indent (some char) rest
    else char :: spacedFrom room (column + 1) (some char) rest

/-- Write the rest of a text between single quotes, which are doubled: lines that end are followed
by an empty one, so that they are not joined. -/
def singleFrom (room : Room) (column : Nat) (before : Option Char) : Text → Text
  | [] => []
  | char :: rest =>
    let isLone := char == ' ' && before.isSome && before != some ' ' &&
      rest.head?.any (· != ' ')
    if room.breakable && isLone && bestWidth < column then
      newLine room.indent ++ singleFrom room room.indent (some char) rest
    else if char = '\n' then
      let first : Text := if before = some '\n' then [] else ['\n']
      let next : Text :=
        if rest.head? = some '\n' then ['\n'] else newLine room.indent
      first ++ next ++ singleFrom room room.indent (some char) rest
    else if char = '\'' then '\'' :: '\'' :: singleFrom room (column + 2) (some char) rest
    else char :: singleFrom room (column + 1) (some char) rest

/-- A character's number in capital hexadecimal digits, filled up with zeros to a width. -/
def hexCapitals (width code : Nat) : Text := Text.upper (Text.hexPadded width code)

/-- How a character is written between double quotes, if not as itself. -/
def escaped? (char : Char) : Option Text :=
  let code := char.toNat
  if char != '"' && char != '\\' && 0x20 ≤ code && code ≤ 0x7E then none
  else
    match escapes.find? fun entry => entry.2 == char with
    | some (letter, _) => some ['\\', letter]
    | none =>
      if code < 0x100 then some ('\\' :: 'x' :: hexCapitals 2 code)
      else if code < 0x10000 then some ('\\' :: 'u' :: hexCapitals 4 code)
      else some ('\\' :: 'U' :: hexCapitals 8 code)

/-- Write the rest of a text between double quotes: `held` is what has been passed since the last
escape or line, and a line is broken behind a backslash, which also stands before a space that the
next line begins with. -/
def doubleFrom (room : Room) (column : Nat) (isFirst : Bool) (held : Text) : Text → Text
  | [] => held
  | char :: rest =>
    let mayBreak := room.breakable && !isFirst && !rest.isEmpty
    let mark := fun next : Option Char => if next = some ' ' then ['\\'] else []
    match escaped? char with
    | some escape =>
      let column := column + held.length + escape.length
      if mayBreak && bestWidth + 1 < column then
        let mark := mark rest.head?
        held ++ escape ++ '\\' :: newLine room.indent ++ mark ++
          doubleFrom room (room.indent + mark.length) false [] rest
      else held ++ escape ++ doubleFrom room column false [] rest
    | none =>
      if mayBreak && (char = ' ' || held.isEmpty) && bestWidth < column + held.length then
        let mark := mark (some char)
        held ++ '\\' :: newLine room.indent ++ mark ++
          doubleFrom room (room.indent + mark.length) false [char] rest
      else doubleFrom room column false (held ++ [char]) rest

/-- A text as a scalar. -/
def textScalar (room : Room) (text : Text) : Text :=
  if isPlain text then spacedFrom room room.column none text
  else
    let room := { room with column := room.column + 1 }
    if isSingleQuotable text && (room.breakable || !text.contains '\n') then
      '\'' :: singleFrom room room.column none text ++ ['\'']
    else '"' :: doubleFrom room room.column true [] text ++ ['"']

/-- A floating number as a scalar, always with a point. -/
def doubleScalar (number : Double) : Text :=
  match number with
  | .infinite negative => signed negative ".inf"
  | .undefined _ => ".nan"
  | number =>
    let text := number.written
    if text.contains '.' then text
    else text.flatMap fun char => if char = 'e' then ".0e" else [char]

/-- A value that is no collection, as a scalar. -/
def scalarText (room : Room) : Value → Except Fault Text
  | .nothing => .ok "null"
  | .flag truth => .ok (if truth then "true" else "false")
  | .int number => writeInt number
  | .double number => .ok (doubleScalar number)
  | .text content => .ok (textScalar room content)
  | .moment moment => .ok moment.shown
  | value => (Value.shown value).map (textScalar room)

/-- Lines of which the first has a beginning and the others are indented under it. -/
def hang (beginning : Text) : List Text → List Text
  | [] => []
  | line :: lines => (beginning ++ line) :: lines.map fun line => ' ' :: ' ' :: line

mutual

/-- The lines of a collection with items, itself indented so far. -/
def collectionLines (indent : Nat) : Value → Except Fault (List Text)
  | .list items | .tuple items => itemLines indent items
  | .mapping entries => entryLines indent entries
  | _ => .ok []

/-- The lines of the items of a list. -/
def itemLines (indent : Nat) : List Value → Except Fault (List Text)
  | [] => .ok []
  | item :: rest => do
    let lines ← collectionLines (indent + 2) item
    let lines ←
      if lines.isEmpty then (emptyOrScalar ⟨indent + 2, indent + 2, true⟩ item).map ([·])
      else .ok lines
    return hang "- " lines ++ (← itemLines indent rest)

/-- The lines of the entries of a mapping. -/
def entryLines (indent : Nat) : List (Value × Value) → Except Fault (List Text)
  | [] => .ok []
  | (key, value) :: rest => do
    let key ← scalarText ⟨indent, indent, false⟩ key
    let column := indent + key.length + 2
    let lines ←
      match value with
      | .mapping (entry :: entries) => do
        let lines ← entryLines (indent + 2) (entry :: entries)
        pure ((key ++ [':']) :: lines.map fun line => ' ' :: ' ' :: line)
      | .list (item :: items) | .tuple (item :: items) => do
        pure ((key ++ [':']) :: (← itemLines indent (item :: items)))
      | value => do
        pure [key ++ ": " ++ (← emptyOrScalar ⟨column, indent + 2, true⟩ value)]
    return lines ++ (← entryLines indent rest)

/-- A value without items on its line. -/
def emptyOrScalar (room : Room) : Value → Except Fault Text
  | .list _ | .tuple _ => .ok "[]"
  | .mapping _ => .ok "\x7b\x7d"
  | value => scalarText room value

end

/-- A mapping as a document. -/
def write (entries : List (Text × Value)) : Except Fault Text := do
  let lines ← entryLines 0 (entries.map fun (name, value) => (.text name, value))
  return lines.flatMap fun line => line ++ ['\n']

end Stencil.Yaml
