import Stencil.Value.Basic
import Stencil.Number.Reader

/-!
# Values as text

A value has two texts: `shown` for a reader, and `written` as it appears inside a collection,
where texts are quoted and decimals and members are marked. `stringify` is the text that a
template is filled with: nothing is empty, booleans are words in small letters, and a member
counts as its value.
-/
namespace Stencil

/-- Items between two brackets. -/
def bracketed (opening closing : Text) (items : List Text) : Text :=
  opening ++ Text.join ", " items ++ closing

/-- The written form of a tuple's items: a single one is followed by a comma. -/
def writtenTuple : List Text → Text
  | [item] => "(" ++ item ++ ",)"
  | items => bracketed "(" ")" items

/-- The written form of a set's items. -/
def writtenSet : List Text → Text
  | [] => "frozenset()"
  | items => bracketed "frozenset(\x7b" "\x7d)" items

/-- The name of a class with the module it belongs to. -/
def qualifiedClass (name : Text) : Text :=
  if name = "object" then name else "world." ++ name

mutual

/-- The text of a value inside a collection. An integer beyond the limit of digits has none. -/
def Value.written : Value → Except Fault Text
  | .nothing => .ok "None"
  | .flag truth => .ok (if truth then "True" else "False")
  | .int number => writeInt number
  | .double number => .ok number.written
  | .decimal number => .ok ("Decimal('" ++ number.written ++ "')")
  | .text content => .ok (Text.quoted content)
  | .bytes content => .ok (Text.quotedBytes content)
  | .moment time => .ok time.written
  | .list items => (writtenItems items).map (bracketed "[" "]")
  | .tuple items => (writtenItems items).map writtenTuple
  | .set items => (writtenItems items).map writtenSet
  | .mapping entries => (writtenEntries entries).map (bracketed "\x7b" "\x7d")
  | .member enumeration _ name value =>
    (Value.written value).map fun value =>
      "<" ++ enumeration ++ "." ++ name ++ ": " ++ value ++ ">"
  | .keyed .. => .ok "<Kvc object>"
  | .object _ => .ok "<object>"
  | .type name => .ok ("<class '" ++ qualifiedClass name ++ "'>")
  | .routine held => .ok held.written

/-- The written forms of items. -/
def writtenItems : List Value → Except Fault (List Text)
  | [] => .ok []
  | item :: rest => do
    let item ← Value.written item
    let rest ← writtenItems rest
    return item :: rest

/-- The written forms of entries. -/
def writtenEntries : List (Value × Value) → Except Fault (List Text)
  | [] => .ok []
  | (key, value) :: rest => do
    let key ← Value.written key
    let value ← Value.written value
    let rest ← writtenEntries rest
    return (key ++ ": " ++ value) :: rest

end

/-- The text of a value for a reader. -/
def Value.shown : Value → Except Fault Text
  | .text content => .ok content
  | .decimal number => .ok number.written
  | .moment time => .ok time.shown
  | .member enumeration _ name _ => .ok (enumeration ++ "." ++ name)
  | value => value.written

/-- The text that a place in a template is filled with. -/
def Value.stringify : Value → Except Fault Text
  | .nothing => .ok []
  | .flag truth => .ok (if truth then "true" else "false")
  | .member _ _ _ value => value.stringify
  | value => value.shown

end Stencil
