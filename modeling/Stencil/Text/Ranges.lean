/-!
# Ranges of code points

A character class of the Unicode standard is stored as a list of ranges, each a first and a last
code point, and a case map as a list of stepped ranges with the distance to the mapped character.
-/
namespace Stencil.Text

/-- Whether a code point lies in one of the ranges. -/
def inRanges (ranges : List (Nat × Nat)) (code : Nat) : Bool :=
  ranges.any fun range => range.1 ≤ code && code ≤ range.2

/-- Whether a code point is one of the members of a range that advances by a step. -/
def inStep (first last step code : Nat) : Bool :=
  first ≤ code && code ≤ last && (code - first) % step == 0

/-- Characters that a case map moves by one distance. -/
structure CaseRange where
  /-- The first code point that is mapped. -/
  first : Nat
  /-- The last code point that is mapped. -/
  last : Nat
  /-- The distance between neighbouring mapped code points. -/
  step : Nat
  /-- What is added to a mapped code point. -/
  shift : Int

/-- The character that a case map assigns to a character; one outside all ranges stays. -/
def mapCase (ranges : List CaseRange) (char : Char) : Char :=
  match ranges.find? fun range => inStep range.first range.last range.step char.toNat with
  | some range => Char.ofNat (char.toNat + range.shift).toNat
  | none => char

end Stencil.Text
