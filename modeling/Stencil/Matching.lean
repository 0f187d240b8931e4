import Std.Data.HashSet
import Stencil.Template.Pattern

/-!
# Matching

A text is matched against segments from left to right: a literal must stand at the cursor, and a
parameter takes the text up to a place where the segment after it can begin. The nearest such
place is tried first, and the next one only when the nearer one leads nowhere. Positions from
which no match is possible are remembered, so that no parameter is tried twice from one place.
-/
namespace Stencil

/-- A parameter with the text it takes for now. -/
structure Choice where
  /-- The position of the parameter among the segments. -/
  index : Nat
  /-- Where its text begins. -/
  start : Nat
  /-- Where its text ends for now. -/
  stop : Nat
deriving DecidableEq, Repr

/-- What a search has done so far. -/
structure Walk where
  /-- The parameters passed, the last one first. -/
  choices : List Choice
  /-- The pairs of a segment and a position from which no match is possible. -/
  dead : Std.HashSet (Nat × Nat)

namespace Walk

/-- A search that has not begun. -/
def start : Walk := ⟨[], {}⟩

/-- Remember that no match is possible from a segment and a position. -/
def bury (walk : Walk) (index cursor : Nat) : Walk :=
  { walk with dead := walk.dead.insert (index, cursor) }

/-- Pass a parameter. -/
def choose (walk : Walk) (choice : Choice) : Walk :=
  { walk with choices := choice :: walk.choices }

end Walk

/-- The first place, not before a position, where a parameter may end, given the segment after
it: any place before another parameter, and an occurrence of a literal. -/
def boundaryFrom (text : Text) (following : Segment) (position : Nat) : Option Nat :=
  if text.length < position then none
  else
    match following with
    | .parameter _ => some position
    | .literal needle => Text.firstFrom needle (text.drop position) position

/-- Walk forward over segments, each parameter taking its nearest end. The result says whether the
text is matched to its end. -/
def advance (text : Text) : List Segment → Nat → Nat → Walk → Bool × Walk
  | [], _, cursor, walk => (cursor == text.length, walk)
  | segment :: rest, index, cursor, walk =>
    if walk.dead.contains (index, cursor) then (false, walk)
    else
      match segment, rest with
      | .literal needle, rest =>
        if needle.isPrefixOf (text.drop cursor) then
          advance text rest (index + 1) (cursor + needle.length) walk
        else (false, walk.bury index cursor)
      | .parameter _, [] => (true, walk.choose ⟨index, cursor, text.length⟩)
      | .parameter _, following :: rest =>
        match boundaryFrom text following cursor with
        | none => (false, walk.bury index cursor)
        | some stop =>
          advance text (following :: rest) (index + 1) stop (walk.choose ⟨index, cursor, stop⟩)

/-- Go back to the last parameter that has another end to be tried, and let it take that end. The
ends given up, and the beginnings without further ends, are remembered. -/
def backtrack (text : Text) (segments : List Segment) :
    List Choice → Std.HashSet (Nat × Nat) → Option Walk
  | [], _ => none
  | choice :: outer, dead =>
    let dead := dead.insert (choice.index + 1, choice.stop)
    let next? := segments[choice.index + 1]?.bind fun following =>
      boundaryFrom text following (choice.stop + 1)
    match next? with
    | some stop => some ⟨{ choice with stop } :: outer, dead⟩
    | none => backtrack text segments outer (dead.insert (choice.index, choice.start))

/-- Walk on from a segment and a position, going back as often as needed; the first number bounds
how often the walk begins anew. -/
def search (text : Text) (segments : List Segment) : Nat → Nat → Nat → Walk → Option (List Choice)
  | 0, _, _, _ => none
  | fuel + 1, index, cursor, walk =>
    match advance text (segments.drop index) index cursor walk with
    | (true, walk) => some walk.choices.reverse
    | (false, walk) =>
      match backtrack text segments walk.choices walk.dead with
      | none => none
      | some resumed =>
        match resumed.choices with
        | [] => none
        | choice :: _ => search text segments fuel (choice.index + 1) choice.stop resumed

/-- How often a walk over segments with this many parameters can begin anew on a text of this
length. -/
def searchBound (parameters length : Nat) : Nat := 1 + parameters * ((length + 1) * (length + 1))

/-- The text that a parameter takes. -/
def Choice.value (text : Text) (choice : Choice) : Text :=
  (text.drop choice.start).take (choice.stop - choice.start)

/-- The text that each parameter takes, if the text matches the segments. -/
def matchSegments (segments : List Segment) (text : Text) : Option (List Text) :=
  let bound := searchBound (parameterTokens segments).length text.length
  (search text segments bound 0 0 .start).map fun choices => choices.map (Choice.value text)

namespace Pattern

/-- The text that each parameter takes, if the text conforms to the pattern. -/
def extract (pattern : Pattern) (text : Text) : Option (List Text) :=
  matchSegments pattern.segments text

/-- Whether the text conforms to the pattern. -/
def conforms (pattern : Pattern) (text : Text) : Bool := (pattern.extract text).isSome

/-- The text that each parameter takes, by the parameter's token; of equal tokens the last one
counts. -/
def parameters? (pattern : Pattern) (text : Text) : Option (List (Text × Text)) :=
  (pattern.extract text).map fun values => Text.lastEntries (pattern.tokens.zip values)

end Pattern
end Stencil
