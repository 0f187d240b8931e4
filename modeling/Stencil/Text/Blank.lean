import Stencil.Text.Basic
import Stencil.Text.Ranges

/-!
# Blank characters

The characters that separate words: those with the bidirectional class of white space, of a
paragraph or of a segment separator, and the space separators. The smaller class `isAsciiBlank`
holds those that the readers of numbers skip in plain ASCII text.
-/
namespace Stencil.Text

/-- The ranges of blank code points. -/
def blankRanges : List (Nat × Nat) :=
  [(0x9, 0xD), (0x1C, 0x20), (0x85, 0x85), (0xA0, 0xA0), (0x1680, 0x1680), (0x2000, 0x200A),
    (0x2028, 0x2029), (0x202F, 0x202F), (0x205F, 0x205F), (0x3000, 0x3000)]

/-- Whether a character is blank. -/
def isBlank (char : Char) : Bool := inRanges blankRanges char.toNat

/-- Whether a character is a space or one of the five layout characters from tab to return. -/
def isAsciiBlank (char : Char) : Bool := char.toNat == 32 || (9 ≤ char.toNat && char.toNat ≤ 13)

/-- Whether a number's reader skips the character at the ends of a text: every blank character
except the four ASCII separators. -/
def isNumberBlank (char : Char) : Bool :=
  if char.toNat < 128 then isAsciiBlank char else isBlank char

/-- The text without the blank characters at its ends. -/
def strip (text : Text) : Text := trim isBlank text

end Stencil.Text
