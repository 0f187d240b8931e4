import Stencil.Fault
import Stencil.Text.Case

/-!
# Names of operations

An operation is named by keywords in camel case, each followed by the argument marker. Its
conventional name is the words of all keywords in small letters with underscores between them;
`conventionalName` computes it and `setterAttribute?` the attribute that `setX` assigns to.
-/
namespace Stencil

/-- A run of capitals, given in reverse, before a small letter: the last capital begins a new word
if it is not alone. -/
def closeAcronym : Text → Text
  | last :: before :: rest => (before :: rest).reverse ++ ['_', last]
  | run => run.reverse

/-- Mark the beginning of a word after an acronym; `run` holds the capitals just read, in
reverse. -/
def markAcronyms : Text → Text → Text
  | run, [] => run.reverse
  | run, char :: rest =>
    if Text.isCapital char then markAcronyms (char :: run) rest
    else (if Text.isSmall char then closeAcronym run else run.reverse) ++
      char :: markAcronyms [] rest

/-- Whether a word can end in a character where the next one begins with a capital. -/
def endsWord (char : Char) : Bool := Text.isSmall char || char.isDigit

/-- Mark the beginning of a word at a capital after a small letter or a digit. -/
def markCapitals : Text → Text
  | first :: second :: rest =>
    if endsWord first && Text.isCapital second then
      first :: '_' :: markCapitals (second :: rest)
    else first :: markCapitals (second :: rest)
  | text => text

/-- The words of a keyword in small letters with underscores between them. -/
def snakeCase (word : Text) : Text := Text.lower (markCapitals (markAcronyms [] word))

/-- The keywords of an operation's name; there are none to be found at an empty marker. -/
def keywords (name marker : Text) : Except Fault (List Text) :=
  if marker.isEmpty then .error .emptySeparator
  else .ok ((Text.splitOn marker name).filter fun keyword => !keyword.isEmpty)

/-- The conventional name of an operation. -/
def conventionalName (name marker : Text) : Except Fault Text := do
  let keywords ← keywords name marker
  return Text.join "_" (keywords.map snakeCase)

/-- The attribute that a keyword assigns to: what follows `set`, which must begin with a capital,
in small letters; private attributes are not assigned to. -/
def setterKeyword? (keyword : Text) : Option Text :=
  match keyword with
  | 's' :: 'e' :: 't' :: first :: rest =>
    if Text.isUpperCase first then
      let field := snakeCase (Text.lowerChar first ++ rest)
      if field.startsWith "_" then none else some field
    else none
  | _ => none

/-- The attribute that an operation of a single keyword assigns to. -/
def setterAttribute? (name marker : Text) : Except Fault (Option Text) :=
  if name.endsWith marker then do
    match ← keywords name marker with
    | [keyword] => return setterKeyword? keyword
    | _ => return none
  else .ok none

end Stencil
