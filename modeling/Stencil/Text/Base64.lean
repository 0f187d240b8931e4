import Stencil.Text.Case

/-!
# Bytes in base 64

Four letters stand for three bytes. Characters outside the alphabet are passed over, and padding
after two or three letters ends the text.
-/
namespace Stencil.Text

/-- The value of a letter. -/
def sextet? (char : Char) : Option Nat :=
  if isCapital char then some (char.toNat - 65)
  else if isSmall char then some (char.toNat - 71)
  else if char.isDigit then some (char.toNat + 4)
  else if char = '+' then some 62
  else if char = '/' then some 63
  else none

/-- Read the rest of a text: `count` letters of four have been read, `left` holds their bits that
are in no byte yet, and `pads` counts the padding since the last letter. -/
def sextets (count left pads : Nat) : Text → Option (List UInt8)
  | [] => if count = 0 then some [] else none
  | char :: rest =>
    if char = '=' then
      if 2 ≤ count then
        if 4 ≤ count + pads + 1 then some [] else sextets count left (pads + 1) rest
      else sextets count left pads rest
    else
      match sextet? char with
      | none => sextets count left pads rest
      | some value =>
        match count with
        | 0 => sextets 1 value 0 rest
        | 1 => (sextets 2 (value % 16) 0 rest).map ((left * 4 + value / 16).toUInt8 :: ·)
        | 2 => (sextets 3 (value % 4) 0 rest).map ((left * 16 + value / 4).toUInt8 :: ·)
        | _ => (sextets 0 0 0 rest).map ((left * 64 + value).toUInt8 :: ·)

/-- The bytes that a text in base 64 stands for; an incomplete group of letters stands for none. -/
def bytesOfBase64 (text : Text) : Option (List UInt8) := sextets 0 0 0 text

end Stencil.Text
