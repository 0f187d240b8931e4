import Stencil.Yaml.Scalar

/-!
# Tokens of a document

The tokens that a YAML document consists of, and the readers of those that have a text of their
own: names of anchors, tags, and directives.
-/
namespace Stencil.Yaml

/-- A line for the reader of a document. -/
inductive Directive
  /-- The document is written in a version of the language; its major number is given. -/
  | version (major : Nat)
  /-- A handle stands for the beginning of tags. -/
  | handle (name beginning : Text)
  /-- A line of no meaning. -/
  | other
deriving DecidableEq, Repr

/-- A token of a document. -/
inductive Token
  /-- The end of the text. -/
  | finish
  /-- A line for the reader. -/
  | directive (directive : Directive)
  /-- The mark before a document. -/
  | documentStart
  /-- The mark behind a document. -/
  | documentEnd
  /-- The beginning of an indented sequence. -/
  | sequenceStart
  /-- The beginning of an indented mapping. -/
  | mappingStart
  /-- The end of an indented collection. -/
  | blockEnd
  /-- An opening bracket. -/
  | openSequence
  /-- An opening brace. -/
  | openMapping
  /-- A closing bracket. -/
  | closeSequence
  /-- A closing brace. -/
  | closeMapping
  /-- The dash before an item. -/
  | entry
  /-- The comma between items in brackets. -/
  | comma
  /-- The beginning of a key. -/
  | key
  /-- The colon before a value. -/
  | value
  /-- A node that stands elsewhere. -/
  | alias (name : Text)
  /-- The name of a node. -/
  | anchor (name : Text)
  /-- The tag of a node: a handle, if there is one, and what follows it. -/
  | tag (handle : Option Text) (suffix : Text)
  /-- The text of a scalar, and whether it was written plainly. -/
  | scalar (plain : Bool) (content : Text)
deriving DecidableEq, Repr

/-- The refusal of a text that forms no token. -/
def noToken {α : Type} : Except Refusal α := .error (.malformed .token)

/-- Whether a character may stand in a tag as itself. -/
def isTagChar (char : Char) : Bool :=
  char.isAlphanum || "-;/?:@&=+$,_.!~*'()[]".toList.contains char

/-- The bytes of a tag, those written as two hexadecimal digits included. -/
def tagBytes : Text → Option (List UInt8 × Text)
  | [] => some ([], [])
  | '%' :: high :: low :: rest => do
    let high ← baseDigit? 16 high
    let low ← baseDigit? 16 low
    let (bytes, rest) ← tagBytes rest
    return ((high * 16 + low).toUInt8 :: bytes, rest)
  | char :: rest =>
    if char = '%' then none
    else if isTagChar char then (tagBytes rest).map fun (bytes, rest) =>
      (char.toNat.toUInt8 :: bytes, rest)
    else some ([], char :: rest)

/-- Read the text of a tag. -/
def takeTagText (text : Text) : Except Refusal (Text × Text) :=
  match tagBytes text with
  | none | some ([], _) => noToken
  | some (bytes, rest) =>
    match String.fromUTF8? ⟨bytes.toArray⟩ with
    | some content => .ok (content.toList, rest)
    | none => noToken

/-- Read a handle: an exclamation mark alone before a space, or a name between two. -/
def takeHandle : Text → Except Refusal (Text × Text)
  | '!' :: ' ' :: rest => .ok (['!'], ' ' :: rest)
  | '!' :: rest =>
    match rest.span isNameChar with
    | (name, '!' :: rest) => .ok ('!' :: name ++ ['!'], rest)
    | _ => noToken
  | _ => noToken

/-- Read a tag behind its exclamation mark: a whole one in angle brackets, the mark alone, or a
suffix with or without a handle. -/
def takeTag (text : Text) : Except Refusal (Token × Text) := do
  let (tag, rest) ← show Except Refusal (Token × Text) from
    match text with
    | '<' :: text => do
      let (suffix, rest) ← takeTagText text
      match rest with
      | '>' :: rest => return (.tag none suffix, rest)
      | _ => noToken
    | text =>
      if endsWord text then .ok (.tag none ['!'], text)
      else if (text.takeWhile fun char => char != ' ' && !isBreak char).contains '!' then do
        let (handle, rest) ← takeHandle ('!' :: text)
        let (suffix, rest) ← takeTagText rest
        return (.tag (some handle) suffix, rest)
      else do
        let (suffix, rest) ← takeTagText text
        return (.tag (some ['!']) suffix, rest)
  if endsPart rest then return (tag, rest) else noToken

/-- Read the name of an anchor. -/
def takeAnchor (text : Text) : Except Refusal (Text × Text) :=
  let (name, rest) := text.span isNameChar
  let ends := isAt fun char =>
    isBlank char || isBreak char || "?:,]\x7d%@`".toList.contains char
  if name.isEmpty || !ends rest then noToken else .ok (name, rest)

/-- Read a number of digits. -/
def takeNumber (text : Text) : Except Refusal (Nat × Text) :=
  match spanDigits text with
  | ([], _) => noToken
  | (digits, rest) => .ok (plainValue digits, rest)

/-- Read the version that a directive gives: a major and a minor number. -/
def takeVersion (text : Text) : Except Refusal (Directive × Text) := do
  let (major, rest) ← takeNumber (text.dropWhile (· = ' '))
  match rest with
  | '.' :: rest =>
    let (_, rest) ← takeNumber rest
    if endsPart rest then return (.version major, rest) else noToken
  | _ => noToken

/-- Read the handle that a directive gives, and what it stands for. -/
def takeHandleMeaning (text : Text) : Except Refusal (Directive × Text) := do
  let (name, rest) ← takeHandle (text.dropWhile (· = ' '))
  if rest.head? = some ' ' then
    let (beginning, rest) ← takeTagText (rest.dropWhile (· = ' '))
    if endsPart rest then return (.handle name beginning, rest) else noToken
  else noToken

/-- Read a directive behind its percent sign, up to the end of its line. -/
def takeDirective (text : Text) : Except Refusal (Directive × Text) := do
  let (name, rest) := text.span isNameChar
  if name.isEmpty || !endsPart rest then noToken
  else
    let (directive, rest) ←
      if name = "YAML" then takeVersion rest
      else if name = "TAG" then takeHandleMeaning rest
      else .ok (.other, rest.dropWhile (!isBreak ·))
    return (directive, ← skipLine rest)

end Stencil.Yaml
