import Stencil.Text.Quoted

/-!
# JSON texts

Reports for other programs are written as JSON, on one line or on several, in ASCII: other
characters are written by the numbers of their UTF-16 units.
-/
namespace Stencil.CommandLine

/-- A report for other programs. -/
inductive Json
  /-- A truth value. -/
  | flag (truth : Bool)
  /-- A text. -/
  | text (content : Text)
  /-- Items in order. -/
  | list (items : List Json)
  /-- Items by names, in order. -/
  | object (entries : List (Text × Json))

namespace Json

/-- A UTF-16 unit by its number. -/
def escapedUnit (unit : Nat) : Text := '\\' :: 'u' :: Text.hexPadded 4 unit

/-- A character by the numbers of its UTF-16 units. -/
def escapedChar (char : Char) : Text :=
  let code := char.toNat
  if code < 0x10000 then escapedUnit code
  else
    let rest := code - 0x10000
    escapedUnit (0xD800 + rest / 0x400) ++ escapedUnit (0xDC00 + rest % 0x400)

/-- The characters that have an escape of their own. -/
def escapes : List (Char × Char) :=
  [('"', '"'), ('\\', '\\'), ('\n', 'n'), ('\r', 'r'), ('\t', 't'), ('\u0008', 'b'),
    ('\u000C', 'f')]

/-- How a character is written in a text. -/
def writtenChar (char : Char) : Text :=
  match escapes.lookup char with
  | some letter => ['\\', letter]
  | none => if 0x20 ≤ char.toNat && char.toNat ≤ 0x7E then [char] else escapedChar char

/-- A text between quotes. -/
def writtenText (text : Text) : Text := '"' :: text.flatMap writtenChar ++ ['"']

/-- How items are laid out. -/
inductive Layout
  /-- On one line, with spaces between them. -/
  | oneLine
  /-- Each on a line of its own, indented by two spaces more than what is around them. -/
  | indented (depth : Nat)

/-- The layout within an item. -/
def Layout.inner : Layout → Layout
  | oneLine => oneLine
  | indented depth => indented (depth + 1)

/-- A new line at a depth. -/
def newLine (depth : Nat) : Text := '\n' :: List.replicate (2 * depth) ' '

/-- Items between two brackets. -/
def Layout.enclosed (layout : Layout) (opening closing : Text) (items : List Text) : Text :=
  if items.isEmpty then opening ++ closing
  else
    match layout with
    | oneLine => opening ++ Text.join ", " items ++ closing
    | indented depth =>
      let line := newLine (depth + 1)
      opening ++ line ++ Text.join (',' :: line) items ++ newLine depth ++ closing

mutual

/-- A report as text. -/
def written (layout : Layout) : Json → Text
  | flag truth => if truth then "true" else "false"
  | text content => writtenText content
  | list items => layout.enclosed "[" "]" (writtenItems layout.inner items)
  | object entries => layout.enclosed "\x7b" "\x7d" (writtenEntries layout.inner entries)

/-- Items as texts. -/
def writtenItems (layout : Layout) : List Json → List Text
  | [] => []
  | item :: rest => written layout item :: writtenItems layout rest

/-- Entries as texts. -/
def writtenEntries (layout : Layout) : List (Text × Json) → List Text
  | [] => []
  | (name, value) :: rest =>
    (writtenText name ++ ": " ++ written layout value) :: writtenEntries layout rest

end

end Json
end Stencil.CommandLine
