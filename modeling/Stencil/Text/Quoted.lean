import Stencil.Text.Basic
import Stencil.Text.Visible

/-!
# Quoted text

The written form of a text inside a message or a collection: between quotes, with a backslash
before what the quotes or the reader of a line would mistake. Bytes are written the same way after
the letter `b`.
-/
namespace Stencil.Text

/-- The hexadecimal digits of a number in small letters, filled up with zeros to a width. -/
def hexPadded (width n : Nat) : Text :=
  let digits := Nat.toDigits 16 n
  List.replicate (width - digits.length) '0' ++ digits

/-- The number of a hidden character: two, four or eight hexadecimal digits after `x`, `u` or
`U`. -/
def hexEscape (code : Nat) : Text :=
  if code < 0x100 then "\\x" ++ hexPadded 2 code
  else if code < 0x10000 then "\\u" ++ hexPadded 4 code
  else "\\U" ++ hexPadded 8 code

/-- The double quote is used only for a text that holds a single one and no double one. -/
def quoteFor (text : Text) : Char :=
  if '\'' ∈ text ∧ '"' ∉ text then '"' else '\''

/-- How a character is written between the given quotes. -/
def quotedChar (quote char : Char) : Text :=
  if char = quote || char = '\\' then ['\\', char]
  else if char = '\n' then "\\n"
  else if char = '\r' then "\\r"
  else if char = '\t' then "\\t"
  else if isVisible char then [char]
  else hexEscape char.toNat

/-- The written form of a text. -/
def quoted (text : Text) : Text :=
  let quote := quoteFor text
  quote :: text.flatMap (quotedChar quote) ++ [quote]

/-- How a byte is written between the given quotes; only ASCII is written as itself. -/
def quotedByte (quote : Char) (byte : UInt8) : Text :=
  if byte.toNat < 127 then quotedChar quote (Char.ofNat byte.toNat) else hexEscape byte.toNat

/-- The written form of bytes. -/
def quotedBytes (bytes : List UInt8) : Text :=
  let quote := quoteFor (bytes.map fun byte => Char.ofNat byte.toNat)
  'b' :: quote :: bytes.flatMap (quotedByte quote) ++ [quote]

end Stencil.Text
