/-!
# Text

The text that templates, inputs and values are made of: a list of characters. Positions count
characters. This module searches a text for a needle (`firstFrom`), cuts it at a separator
(`splitOn`) and joins pieces again (`join`).
-/
namespace Stencil

/-- A text is the list of its characters. -/
abbrev Text := List Char

/-- A string literal stands for the text of its characters. -/
instance : Coe String Text := ⟨String.toList⟩

namespace Text

/-- Whether the text begins with the given beginning. -/
def startsWith (text beginning : Text) : Bool := beginning.isPrefixOf text

/-- Whether the text ends with the given ending; every text ends with the empty ending. -/
def endsWith (text ending : Text) : Bool := ending.isSuffixOf text

/-- The first position at which the needle stands, the text beginning at `base`. The empty needle
stands at every position, the end included. -/
def firstFrom (needle : Text) : Text → Nat → Option Nat
  | [], base => if needle.isEmpty then some base else none
  | char :: rest, base =>
    if needle.isPrefixOf (char :: rest) then some base else firstFrom needle rest (base + 1)

/-- Whether the needle stands somewhere in the text. -/
def holds (text needle : Text) : Bool := (firstFrom needle text 0).isSome

/-- Cut the text at a separator: `piece` holds the characters since the last cut in reverse, and
`skip` counts the characters of a separator still to be passed over. -/
def splitFrom (separator : Text) : Text → Text → Nat → List Text
  | [], piece, _ => [piece.reverse]
  | _ :: rest, piece, skip + 1 => splitFrom separator rest piece skip
  | char :: rest, piece, 0 =>
    if separator.isPrefixOf (char :: rest) then
      piece.reverse :: splitFrom separator rest [] (separator.length - 1)
    else splitFrom separator rest (char :: piece) 0

/-- The pieces between the successive occurrences of a non-empty separator, from the left. -/
def splitOn (separator text : Text) : List Text := splitFrom separator text [] 0

/-- A cut text has at least one piece. -/
theorem splitFrom_ne_nil (separator : Text) (text piece : Text) (skip : Nat) :
    splitFrom separator text piece skip ≠ [] := by
  induction text generalizing piece skip with
  | nil => simp [splitFrom]
  | cons char rest ih =>
    cases skip with
    | succ skip => simpa [splitFrom] using ih piece skip
    | zero =>
      rw [splitFrom]
      split
      · simp
      · exact ih (char :: piece) 0

/-- The texts one after another with the separator between neighbours. -/
def join (separator : Text) : List Text → Text
  | [] => []
  | [piece] => piece
  | piece :: next :: rest => piece ++ separator ++ join separator (next :: rest)

/-- The text before the first occurrence of a character, and the text after it if it occurs. -/
def cutAt (mark : Char) (text : Text) : Text × Option Text :=
  match text.span (· != mark) with
  | (before, []) => (before, none)
  | (before, _ :: after) => (before, some after)

/-- The text without the characters of a class at its beginning and its end. -/
def trim (blank : Char → Bool) (text : Text) : Text :=
  ((text.dropWhile blank).reverse.dropWhile blank).reverse

/-- The text filled up with blanks on the right to at least the given width. -/
def padRight (width : Nat) (text : Text) : Text :=
  text ++ List.replicate (width - text.length) ' '

/-- Whether the first text comes before the second in the order of code points. -/
def before : Text → Text → Bool
  | _, [] => false
  | [], _ :: _ => true
  | a :: as, b :: bs => if a = b then before as bs else a.toNat < b.toNat

/-- Put a value in place: a new value for a name keeps the name's place. -/
def putEntry {α : Type} (name : Text) (value : α) : List (Text × α) → List (Text × α)
  | [] => [(name, value)]
  | (name', value') :: rest =>
    if name' = name then (name, value) :: rest else (name', value') :: putEntry name value rest

/-- Entries in the order of their first names, each with its last value. -/
def lastEntries {α : Type} (entries : List (Text × α)) : List (Text × α) :=
  entries.foldl (fun kept (name, value) => putEntry name value kept) []

/-- A text as a string. -/
def toStr (text : Text) : String := String.ofList text

end Text

/-- The decimal digits of a natural number. -/
def natText (n : Nat) : Text := Nat.toDigits 10 n

/-- The decimal digits of an integer, a negative one after a minus sign. -/
def intText : Int → Text
  | .ofNat n => natText n
  | .negSucc n => '-' :: natText (n + 1)

end Stencil
