import Stencil.Fault

/-!
# YAML documents

A YAML document is read as tokens, the tokens as nodes, and the nodes as values. This module has
what the stages share: the problems a document can have, the characters it may hold, and places in
its text.
-/
namespace Stencil.Yaml

/-- What is wrong with a document. -/
inductive Problem
  /-- It holds a character that no document may hold. -/
  | character
  /-- Some of its text forms no token. -/
  | token
  /-- Its tokens do not form nodes. -/
  | nesting
  /-- An anchor is missing or doubled, or there are several documents. -/
  | reference
  /-- A node stands for no value. -/
  | content
deriving DecidableEq, Repr

/-- The word that reports the class of a problem. -/
def Problem.kind : Problem → Text
  | character => "ReaderError"
  | token => "ScannerError"
  | nesting => "ParserError"
  | reference => "ComposerError"
  | content => "ConstructorError"

/-- The wording of a problem. -/
def Problem.message : Problem → Text
  | character => "a character is not allowed"
  | token => "a part of the text forms no token"
  | nesting => "the tokens form no node"
  | reference => "an anchor or a document is misplaced"
  | content => "a node stands for no value"

/-- Why a document is not read: it has a problem, or no value can be made of a well-formed
scalar. -/
inductive Refusal
  /-- The document is malformed. -/
  | malformed (problem : Problem)
  /-- A value cannot be made. -/
  | failed (fault : Fault)
deriving DecidableEq, Repr

/-- Whether a document may hold a character. -/
def isPermitted (char : Char) : Bool :=
  let code := char.toNat
  code == 0x9 || code == 0xA || code == 0xD || (0x20 ≤ code && code ≤ 0x7E) || code == 0x85 ||
    (0xA0 ≤ code && code ≤ 0xFFFD) || 0x10000 ≤ code

/-- Whether a line ends with a character. -/
def isBreak (char : Char) : Bool :=
  char == '\n' || char == '\u0085' || char == '\u2028' || char == '\u2029'

/-- Whether a character is a space or a tab. -/
def isBlank (char : Char) : Bool := char == ' ' || char == '\t'

/-- What a line's end counts as: the common breaks are all one. -/
def breakChar (char : Char) : Char := if char = '\u0085' then '\n' else char

/-- Whether a text is at its end, or at a character of a class. -/
def isAt (holds : Char → Bool) : Text → Bool
  | [] => true
  | char :: _ => holds char

/-- Whether a line ends here. -/
def endsLine (text : Text) : Bool := isAt isBreak text

/-- Whether a word ends here: at a blank or at the end of the line. -/
def endsWord (text : Text) : Bool := isAt (fun char => isBlank char || isBreak char) text

/-- Whether a space or the end of the line is here. -/
def endsPart (text : Text) : Bool := isAt (fun char => char == ' ' || isBreak char) text

/-- Whether a line that begins here is one of two marks, followed by a blank or nothing. -/
def isMark (mark text : Text) : Bool := mark.isPrefixOf text && endsWord (text.drop mark.length)

/-- Whether a line that begins here separates documents. -/
def isSeparator (text : Text) : Bool := isMark "---" text || isMark "..." text

/-- Whether a character may stand in the name of an anchor or of a directive. -/
def isNameChar (char : Char) : Bool := char.isAlphanum || char == '-' || char == '_'

/-- Carriage returns, alone or before a line feed, become line feeds. -/
def unifyBreaks : Text → Text
  | [] => []
  | '\r' :: '\n' :: rest => '\n' :: unifyBreaks rest
  | '\r' :: rest => '\n' :: unifyBreaks rest
  | char :: rest => char :: unifyBreaks rest

/-- A place in a text. -/
structure Place where
  /-- How many characters stand before it. -/
  offset : Nat
  /-- How many lines end before it. -/
  line : Nat
  /-- How many characters of its line stand before it. -/
  column : Nat
deriving DecidableEq, Repr

/-- The beginning of a text. -/
def Place.start : Place := ⟨0, 0, 0⟩

/-- The place after one more character; the mark of a byte order has no width. -/
def Place.next (place : Place) (char : Char) : Place :=
  if isBreak char then ⟨place.offset + 1, place.line + 1, 0⟩
  else if char = '\uFEFF' then ⟨place.offset + 1, place.line, place.column⟩
  else ⟨place.offset + 1, place.line, place.column + 1⟩

/-- The place after some characters. -/
def Place.past (place : Place) (passed : Text) : Place := passed.foldl Place.next place

end Stencil.Yaml
