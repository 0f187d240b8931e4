import Stencil.Template.Token

/-!
# Patterns

A pattern is a template cut into literal and parameter segments, with a direction. Parameters
that end in the argument marker are keywords; a template of keywords names an operation and is
outbound, a template without any is inbound and its parameters are key paths. `compile` refuses a
template that mixes the two.
-/
namespace Stencil

/-- A piece of a pattern. -/
inductive Segment
  /-- Text that stands for itself. -/
  | literal (text : Text)
  /-- A place to be filled, with the token that names it. -/
  | parameter (token : Text)
deriving DecidableEq, Repr

namespace Segment

/-- Whether the segment is a place to be filled. -/
def isParameter : Segment → Bool
  | literal _ => false
  | parameter _ => true

/-- The literal text or the parameter's token. -/
def text : Segment → Text
  | literal text => text
  | parameter token => token

/-- The token of a parameter. -/
def token? : Segment → Option Text
  | literal _ => none
  | parameter token => some token

/-- The segment of a token; the end of a template has none. -/
def ofToken? (token : Token) : Option Segment :=
  match token.kind with
  | .literal => some (.literal token.text)
  | .parameter => some (.parameter token.text)
  | .finish => none

end Segment

/-- The tokens of the parameters among the segments, in order. -/
def parameterTokens (segments : List Segment) : List Text := segments.filterMap Segment.token?

/-- Which way a pattern is used. -/
inductive Direction
  /-- An object is rendered as text. -/
  | inbound
  /-- A text names an operation to be called. -/
  | outbound
deriving DecidableEq, Repr

/-- The word for a direction. -/
def Direction.word : Direction → Text
  | inbound => "inbound"
  | outbound => "outbound"

/-- How templates are read. -/
structure Dialect where
  /-- What a keyword ends in. -/
  marker : Text
  /-- What the name of a constructing operation begins with. -/
  construction : Text
  /-- Whether unbalanced parentheses are refused. -/
  strict : Bool
deriving DecidableEq, Repr

/-- A compiled template. -/
structure Pattern where
  /-- The text that was compiled. -/
  template : Text
  /-- Its pieces, in order. -/
  segments : List Segment
  /-- Which way it is used. -/
  direction : Direction
  /-- What its keywords end in. -/
  marker : Text
  /-- What the name of a constructing operation begins with. -/
  construction : Text
deriving DecidableEq, Repr

namespace Pattern

/-- The tokens of the parameters, in order. -/
def tokens (pattern : Pattern) : List Text := parameterTokens pattern.segments

/-- The key paths of an inbound pattern; an outbound one has none. -/
def keyPaths (pattern : Pattern) : List Text :=
  match pattern.direction with
  | .inbound => pattern.tokens
  | .outbound => []

/-- The operation of an outbound pattern: its keywords one after another. -/
def operation? (pattern : Pattern) : Option Text :=
  match pattern.direction with
  | .inbound => none
  | .outbound => some pattern.tokens.flatten

/-- How many places the pattern has. -/
def parameterCount (pattern : Pattern) : Nat := pattern.tokens.length

/-- Whether the pattern's operation constructs an object. -/
def isConstructor (pattern : Pattern) : Bool :=
  match pattern.operation? with
  | some name => name.startsWith pattern.construction
  | none => false

end Pattern

/-- Why a template is no pattern. -/
inductive CompileFault
  /-- A strict reading refuses the parentheses. -/
  | unbalanced (fault : ScanFault)
  /-- Some parameters are keywords and others key paths. -/
  | mixed (keywords keyPaths : List Text)
deriving DecidableEq, Repr

/-- The direction of a template with these parameters. -/
def classify (marker : Text) (tokens : List Text) : Except CompileFault Direction :=
  let keywords := tokens.filter fun token => token.endsWith marker
  let keyPaths := tokens.filter fun token => !token.endsWith marker
  match keywords, keyPaths with
  | _ :: _, _ :: _ => .error (.mixed keywords keyPaths)
  | _ :: _, [] => .ok .outbound
  | [], _ => .ok .inbound

/-- The pattern of a template that has been read as these segments. -/
def Pattern.ofSegments (dialect : Dialect) (template : Text) (segments : List Segment) :
    Except CompileFault Pattern := do
  let direction ← classify dialect.marker (parameterTokens segments)
  return ⟨template, segments, direction, dialect.marker, dialect.construction⟩

/-- Read a template in a dialect. -/
def compile (dialect : Dialect) (template : Text) : Except CompileFault Pattern :=
  match scan dialect.strict template with
  | .error fault => .error (.unbalanced fault)
  | .ok scan => Pattern.ofSegments dialect template (scan.tokens.filterMap Segment.ofToken?)

end Stencil
