import Stencil.Yaml.Basic
import Stencil.Number.Reader

/-!
# Texts of scalars

A scalar's text stands between quotes, plainly, or in a block of indented lines. Each way is a
reader that looks at one character after another (`walk`): line breaks between words fold into
spaces, and what a reader holds back is added only where the text goes on.
-/
namespace Stencil.Yaml

/-- What a reader does at a character. -/
inductive Move (σ : Type)
  /-- It adds some text and goes on behind the character. -/
  | go (text : Text) (next : σ)
  /-- It adds some text and stops behind the character. -/
  | close (text : Text) (last : σ)
  /-- It stops before the character. -/
  | leave
  /-- The character makes the document unreadable. -/
  | refuse (refusal : Refusal)

/-- What a reader has read. -/
structure Excerpt (σ : Type) where
  /-- The text that was added. -/
  content : Text
  /-- The state in which the reader stopped. -/
  last : σ
  /-- What was not read. -/
  rest : Text

/-- Read a text by a step that sees the state, the next character and what follows it, until the
step stops or the text ends. -/
def walk {σ : Type} (step : σ → Char → Text → Move σ) : σ → Text → Except Refusal (Excerpt σ)
  | state, [] => .ok ⟨[], state, []⟩
  | state, char :: rest =>
    match step state char rest with
    | .go text next =>
      (walk step next rest).map fun after => { after with content := text ++ after.content }
    | .close text last => .ok ⟨text, last, rest⟩
    | .leave => .ok ⟨[], state, char :: rest⟩
    | .refuse refusal => .error refusal

/-- What the line breaks between two words count as: a single common one is a space, and of several
the first does not count. -/
def folded (first : Char) (others : Text) : Text :=
  if first ≠ '\n' then first :: others
  else if others.isEmpty then [' ']
  else others

/-! ## Between quotes -/

/-- Where a reader stands between quotes. -/
inductive QuotedState
  /-- Within a line. -/
  | content
  /-- Behind blanks, which count if the line goes on. -/
  | blanks (held : Text)
  /-- Behind line breaks and the blanks after them: whether directly behind one, the first one
  unless it was escaped, and the others. -/
  | breaks (fresh : Bool) (first : Option Char) (others : Text)
  /-- Behind a backslash. -/
  | escape
  /-- Within the number of a character: how many digits are missing, and its value so far. -/
  | digits (missing code : Nat)
  /-- Behind the closing quote, which a second one would make part of the text. -/
  | closing

/-- The characters that stand for others behind a backslash. -/
def escapes : List (Char × Char) :=
  [('0', '\u0000'), ('a', '\u0007'), ('b', '\u0008'), ('t', '\t'), ('\t', '\t'), ('n', '\n'),
    ('v', '\u000B'), ('f', '\u000C'), ('r', '\r'), ('e', '\u001B'), (' ', ' '), ('"', '"'),
    ('\\', '\\'), ('/', '/'), ('N', '\u0085'), ('_', '\u00A0'), ('L', '\u2028'), ('P', '\u2029')]

/-- How many digits the number of a character has behind a letter. -/
def escapeWidth? (char : Char) : Option Nat :=
  if char = 'x' then some 2
  else if char = 'u' then some 4
  else if char = 'U' then some 8
  else none

/-- The character of a number; numbers that are kept for pairs stand for an unknown one. -/
def charOf (code : Nat) : Char := if code.isValidChar then Char.ofNat code else '\uFFFD'

/-- The step within a line, given what was held back. -/
def quotedContent (double : Bool) (held : Text) (char : Char) : Move QuotedState :=
  if char = (if double then '"' else '\'') then
    if double then .close held .closing else .go held .closing
  else if isBlank char then .go held (.blanks [char])
  else if isBreak char then .go held (.breaks true (some (breakChar char)) [])
  else if double && char = '\\' then .go held .escape
  else .go (held ++ [char]) .content

/-- The step behind a backslash. -/
def quotedEscape (char : Char) : Move QuotedState :=
  match escapes.lookup char, escapeWidth? char with
  | some meant, _ => .go [meant] .content
  | none, some width => .go [] (.digits width 0)
  | none, none =>
    if isBreak char then .go [] (.breaks true none [])
    else .refuse (.malformed .token)

/-- The step within the number of a character. -/
def quotedDigit (missing code : Nat) (char : Char) : Move QuotedState :=
  match baseDigit? 16 char with
  | none => .refuse (.malformed .token)
  | some digit =>
    let code := code * 16 + digit
    if 1 < missing then .go [] (.digits (missing - 1) code)
    else if code < 0x110000 then .go [charOf code] .content
    else .refuse (.failed (.noCharacter code))

/-- The step between quotes: an escape or a doubled single quote is text, and lines fold. -/
def quotedStep (double : Bool) (state : QuotedState) (char : Char) (rest : Text) :
    Move QuotedState :=
  match state with
  | .content => quotedContent double [] char
  | .blanks held =>
    if isBlank char then .go [] (.blanks (held ++ [char]))
    else if isBreak char then .go [] (.breaks true (some (breakChar char)) [])
    else quotedContent double held char
  | .breaks fresh first others =>
    if fresh && isSeparator (char :: rest) then .refuse (.malformed .token)
    else if isBlank char then .go [] (.breaks false first others)
    else if isBreak char then .go [] (.breaks true first (others ++ [breakChar char]))
    else
      let held := match first with
        | some first => folded first others
        | none => others
      quotedContent double held char
  | .escape => quotedEscape char
  | .digits missing code => quotedDigit missing code char
  | .closing => if !double && char = '\'' then .go ['\''] .content else .leave

/-- Read a text behind its opening quote, and what follows its closing quote. -/
def takeQuoted (double : Bool) (text : Text) : Except Refusal (Text × Text) := do
  let excerpt ← walk (quotedStep double) .content text
  match excerpt.last with
  | .closing => return (excerpt.content, excerpt.rest)
  | _ => throw (.malformed .token)

/-! ## Plainly -/

/-- Where a reader stands in a plain scalar. -/
inductive PlainState
  /-- Within a word. -/
  | word
  /-- Behind spaces, which count if a word follows. -/
  | blanks (held : Text)
  /-- Behind line breaks and the spaces after them: whether directly behind one, the first one,
  the others, and how many spaces follow the last one. -/
  | breaks (fresh : Bool) (first : Char) (others : Text) (column : Nat)

/-- The signs of collections in brackets. -/
def bracketSigns : Text := ",[]\x7b\x7d"

/-- Whether a word ends before a character: at a blank, at a colon that ends a key, and within
brackets also at their signs. -/
def endsPlain (bracketed : Bool) (char : Char) (rest : Text) : Bool :=
  isBlank char || isBreak char ||
    (char == ':' && (endsWord rest || (bracketed && isAt bracketSigns.contains rest))) ||
    (bracketed && (char == '?' || bracketSigns.contains char))

/-- The step of a plain scalar, whose lines are indented at least so far outside brackets. -/
def plainStep (bracketed : Bool) (indent : Int) (state : PlainState) (char : Char) (rest : Text) :
    Move PlainState :=
  let continued := fun (held : Text) =>
    if endsPlain bracketed char rest then Move.leave else .go (held ++ [char]) .word
  match state with
  | .word =>
    if char = ' ' then .go [] (.blanks [' '])
    else if isBreak char then .go [] (.breaks true (breakChar char) [] 0)
    else continued []
  | .blanks held =>
    if char = ' ' then .go [] (.blanks (held ++ [' ']))
    else if isBreak char then .go [] (.breaks true (breakChar char) [] 0)
    else if char = '#' then .leave
    else continued held
  | .breaks fresh first others column =>
    if fresh && isSeparator (char :: rest) then .leave
    else if char = ' ' then .go [] (.breaks false first others (column + 1))
    else if isBreak char then .go [] (.breaks true first (others ++ [breakChar char]) 0)
    else if char = '#' || (!bracketed && column < indent) then .leave
    else continued (folded first others)

/-- Read a plain scalar: its text, whether lines end behind it, and what follows. -/
def takePlain (bracketed : Bool) (indent : Int) (text : Text) :
    Except Refusal (Text × Bool × Text) := do
  let excerpt ← walk (plainStep bracketed indent) .word text
  let ended := match excerpt.last with
    | .breaks .. => true
    | _ => false
  return (excerpt.content, ended, excerpt.rest)

/-! ## In a block -/

/-- What becomes of the line breaks at the end of a block. -/
inductive Chomping
  /-- None is kept. -/
  | strip
  /-- The last line keeps its own. -/
  | clip
  /-- All are kept. -/
  | keep
deriving DecidableEq, Repr

/-- How a block is read. -/
structure BlockHeader where
  /-- What becomes of the line breaks at the end. -/
  chomping : Chomping
  /-- How far the lines are indented beyond the surrounding ones, if it is said. -/
  increment : Option Nat

/-- The sign for what becomes of the last line breaks. -/
def chomping? (char : Char) : Option Chomping :=
  if char = '+' then some .keep
  else if char = '-' then some .strip
  else none

/-- A digit that says how far lines are indented; zero is not allowed. -/
def increment? (char : Char) : Option (Except Refusal Nat) :=
  if char = '0' then some (.error (.malformed .token))
  else if char.isDigit then some (.ok (char.toNat - 48))
  else none

/-- The end of a line that holds nothing more than a comment. -/
def skipLine (text : Text) : Except Refusal Text :=
  let text := text.dropWhile (· = ' ')
  let text := if text.head? = some '#' then text.dropWhile (!isBreak ·) else text
  if endsLine text then .ok (text.drop 1) else .error (.malformed .token)

/-- Read what follows a block's sign on its line: an indentation and a sign, in either order. -/
def takeBlockHeader (text : Text) : Except Refusal (BlockHeader × Text) := do
  let sign := fun (text : Text) => (text.head?.bind chomping?).map fun sign => (sign, text.drop 1)
  let digit := fun (text : Text) => text.head?.bind increment?
  let (header, rest) ← show Except Refusal (BlockHeader × Text) from
    match sign text with
    | some (chomping, rest) =>
      match digit rest with
      | some increment => do return (⟨chomping, some (← increment)⟩, rest.drop 1)
      | none => .ok (⟨chomping, none⟩, rest)
    | none =>
      match digit text with
      | some increment => do
        let increment ← increment
        match sign (text.drop 1) with
        | some (chomping, rest) => return (⟨chomping, some increment⟩, rest)
        | none => return (⟨.clip, some increment⟩, text.drop 1)
      | none => .ok (⟨.clip, none⟩, text)
  if endsPart rest then return (header, ← skipLine rest) else throw (.malformed .token)

/-- Where a reader stands in a block. -/
inductive BlockState
  /-- Within a line, and whether it begins with a blank. -/
  | line (indented : Bool)
  /-- Between lines: how the last line ended and whether it began with a blank, the breaks of the
  empty lines since, and how many spaces follow the last break. -/
  | between (ended : Option (Char × Bool)) (empty : Text) (column : Nat)

/-- What stands between a line that has ended and the next one: a folded block joins lines that are
not indented further by a space, unless empty lines stand between them. -/
def blockJoint (isFolded : Bool) (ended : Option (Char × Bool)) (empty : Text) (indented : Bool) :
    Text :=
  match ended with
  | none => empty
  | some (mark, before) =>
    if isFolded && mark = '\n' && !before && !indented then
      if empty.isEmpty then [' '] else empty
    else mark :: empty

/-- The step of a block whose lines are indented so far. -/
def blockStep (isFolded : Bool) (indent : Nat) (state : BlockState) (char : Char) (_ : Text) :
    Move BlockState :=
  match state with
  | .line indented =>
    if isBreak char then .go [] (.between (some (breakChar char, indented)) [] 0)
    else .go [char] (.line indented)
  | .between ended empty column =>
    if column < indent && char = ' ' then .go [] (.between ended empty (column + 1))
    else if isBreak char then .go [] (.between ended (empty ++ [breakChar char]) 0)
    else if column = indent then
      .go (blockJoint isFolded ended empty (isBlank char) ++ [char]) (.line (isBlank char))
    else .leave

/-- The greatest number of spaces before the first text of a block, at which its lines are
indented. -/
def widestIndent (column widest : Nat) : Text → Nat
  | [] => widest
  | char :: rest =>
    if char = ' ' then widestIndent (column + 1) (max widest (column + 1)) rest
    else if isBreak char then widestIndent 0 widest rest
    else widest

/-- The line breaks that a block ends with. -/
def Chomping.ending (chomping : Chomping) : BlockState → Text
  | .line _ => []
  | .between ended empty _ =>
    let last := match ended with
      | some (mark, _) => [mark]
      | none => []
    match chomping with
    | .strip => []
    | .clip => last
    | .keep => last ++ empty

/-- Read a block behind its sign, its lines indented at least so far, and what follows. -/
def takeBlock (isFolded : Bool) (least : Nat) (text : Text) : Except Refusal (Text × Text) := do
  let (header, text) ← takeBlockHeader text
  let indent := match header.increment with
    | some increment => least + increment - 1
    | none => max least (widestIndent 0 0 text)
  let excerpt ← walk (blockStep isFolded indent) (.between none [] 0) text
  return (excerpt.content ++ header.chomping.ending excerpt.last, excerpt.rest)

end Stencil.Yaml
