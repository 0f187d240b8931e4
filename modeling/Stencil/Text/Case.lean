import Stencil.Text.Basic
import Stencil.Text.Case.Tables

/-!
# Upper and lower case

Full case mapping: a character may become several, and a capital sigma at the end of a word
becomes the final form. On ASCII letters the maps are the usual ones.
-/
namespace Stencil.Text

/-- Whether a character is one of the ASCII capitals. -/
def isCapital (char : Char) : Bool := 'A'.toNat ≤ char.toNat && char.toNat ≤ 'Z'.toNat

/-- Whether a character is one of the ASCII small letters. -/
def isSmall (char : Char) : Bool := 'a'.toNat ≤ char.toNat && char.toNat ≤ 'z'.toNat

/-- Whether a character is upper case in any script. -/
def isUpperCase (char : Char) : Bool :=
  if char.toNat < 128 then isCapital char
  else upperCaseRanges.any fun range => inStep range.1 range.2.1 range.2.2 char.toNat

/-- Whether case rules look past a character. -/
def isCaseIgnorable (char : Char) : Bool := inRanges caseIgnorableRanges char.toNat

/-- Whether a character has a case. -/
def isCased (char : Char) : Bool := inRanges casedRanges char.toNat

/-- The lower-case form of a character that stands alone. -/
def lowerChar (char : Char) : Text :=
  if char.toNat < 128 then
    if isCapital char then [Char.ofNat (char.toNat + 32)] else [char]
  else if char.toNat = 0x130 then ['i', Char.ofNat 0x307]
  else [mapCase lowerRanges char]

/-- The upper-case form of a character. -/
def upperChar (char : Char) : Text :=
  if char.toNat < 128 then
    if isSmall char then [Char.ofNat (char.toNat - 32)] else [char]
  else match longUpperForms.lookup char.toNat with
    | some form => form.map Char.ofNat
    | none => [mapCase upperRanges char]

/-- Whether the nearest character that case rules do not look past has a case. -/
def nearestIsCased (text : Text) : Bool :=
  match text.dropWhile isCaseIgnorable with
  | [] => false
  | char :: _ => isCased char

/-- Lower case, given the characters already passed in reverse: a capital sigma that follows a
cased character and precedes none is final. -/
def lowerAfter : Text → Text → Text
  | _, [] => []
  | passed, char :: rest =>
    let form :=
      if char.toNat = 0x3A3 && nearestIsCased passed && !nearestIsCased rest then
        [Char.ofNat 0x3C2]
      else lowerChar char
    form ++ lowerAfter (char :: passed) rest

/-- The text in lower case. -/
def lower (text : Text) : Text := lowerAfter [] text

/-- The text in upper case. -/
def upper (text : Text) : Text := text.flatMap upperChar

end Stencil.Text
