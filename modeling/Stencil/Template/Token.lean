import Stencil.Text.Basic

/-!
# Tokens of a template

A template is read from left to right as literal runs and parenthesized parameters. `scan` reads
it in one of two ways: leniently, where every text is a template, or strictly, where only balanced
parentheses without nesting are. `Token.written` is the way back from a token to its text.
-/
namespace Stencil

/-- What a token is. -/
inductive TokenKind
  /-- A run of literal text. -/
  | literal
  /-- The text between two parentheses. -/
  | parameter
  /-- The end of the template. -/
  | finish
deriving DecidableEq, Repr

/-- A piece of a template. -/
structure Token where
  /-- What the piece is. -/
  kind : TokenKind
  /-- Its text, without the parentheses of a parameter. -/
  text : Text
  /-- Where it begins; a parameter begins at its opening parenthesis. -/
  position : Nat
deriving DecidableEq, Repr

/-- The text that a token stands for: a parameter is put between parentheses. -/
def Token.written (token : Token) : Text :=
  match token.kind with
  | .literal => token.text
  | .parameter => '(' :: token.text ++ [')']
  | .finish => []

/-- Why a strict reading refuses a template. -/
inductive ScanFault
  /-- A closing parenthesis stands outside all parameters. -/
  | unmatchedClose (position : Nat)
  /-- A parameter opened at this position is never closed. -/
  | unterminated (position : Nat)
  /-- An opening parenthesis stands inside a parameter. -/
  | nestedOpen (position : Nat)
deriving DecidableEq, Repr

/-- What a template is read as. -/
structure Scan where
  /-- The tokens in order, the end included. -/
  tokens : List Token
  /-- Where the parameter begins that lacks its closing parenthesis and therefore takes all the
  rest of the template, if there is one. -/
  unterminated : Option Nat
deriving DecidableEq, Repr

/-- The scan with one more token in front. -/
def Scan.after (token : Token) (scan : Scan) : Scan := { scan with tokens := token :: scan.tokens }

/-- Where a reader stands between two characters of a template. -/
inductive ScanState
  /-- Outside all parameters: where the run of literal text began, and the run in reverse. -/
  | literal (start : Nat) (run : Text)
  /-- Inside a parameter: where it was opened, its text so far in reverse, and where the first
  opening parenthesis inside it stands. -/
  | parameter (start : Nat) (run : Text) (nested : Option Nat)

/-- The token of a run of literal text; an empty run has none. -/
def literalToken? (start : Nat) (run : Text) : Option Token :=
  if run.isEmpty then none else some ⟨.literal, run.reverse, start⟩

/-- The scan with the literal run in front, if it is not empty. -/
def Scan.afterLiteral (start : Nat) (run : Text) (scan : Scan) : Scan :=
  match literalToken? start run with
  | some token => scan.after token
  | none => scan

/-- Read the rest of a template that begins at `position`. A strict reading stops at the first
parenthesis that a lenient one would have to make sense of. -/
def scanFrom (strict : Bool) : Text → Nat → ScanState → Except ScanFault Scan
  | [], position, .literal start run =>
    .ok (Scan.afterLiteral start run ⟨[⟨.finish, [], position⟩], none⟩)
  | [], position, .parameter start run _ =>
    if strict then .error (.unterminated start)
    else .ok ⟨[⟨.parameter, run.reverse, start⟩, ⟨.finish, [], position⟩], some start⟩
  | char :: rest, position, .literal start run =>
    if char = '(' then
      (scanFrom strict rest (position + 1) (.parameter position [] none)).map
        (Scan.afterLiteral start run)
    else if strict && char = ')' then .error (.unmatchedClose position)
    else scanFrom strict rest (position + 1) (.literal start (char :: run))
  | char :: rest, position, .parameter start run nested =>
    if char = ')' then
      match strict, nested with
      | true, some inner => .error (.nestedOpen inner)
      | _, _ =>
        (scanFrom strict rest (position + 1) (.literal (position + 1) [])).map
          (Scan.after ⟨.parameter, run.reverse, start⟩)
    else
      let nested := if char = '(' then nested <|> some position else nested
      scanFrom strict rest (position + 1) (.parameter start (char :: run) nested)

/-- Read a template, leniently or strictly. -/
def scan (strict : Bool) (template : Text) : Except ScanFault Scan :=
  scanFrom strict template 0 (.literal 0 [])

end Stencil
