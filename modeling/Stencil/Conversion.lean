import Stencil.Failure
import Stencil.Annotation.Expected
import Stencil.Value.Printer

/-!
# Conversion

Text is converted to a value of an expected type by the reader that a table holds for the type.
Enumerations are converted by the values and names of their members, unions by their alternatives
in order. Text is left as it is where any value, or text, is expected.
-/
namespace Stencil

/-- A reader of values from text. -/
abbrev TextReader := Text → Except Fault Value

/-- The words for truth. -/
def trueWords : List Text := ["1", "true", "yes", "y", "t", "on"]

/-- The words for falsehood. -/
def falseWords : List Text := ["0", "false", "no", "n", "f", "off"]

/-- A boolean: one of some words in any case, blanks around it skipped. -/
def readFlag : TextReader := fun text =>
  let word := Text.lower (Text.strip text)
  if trueWords.contains word then .ok (.flag true)
  else if falseWords.contains word then .ok (.flag false)
  else .error (.notBoolean text)

/-- A decimal. -/
def readDecimal : TextReader := fun text =>
  match readDecimal? none text with
  | some number => .ok (.decimal number)
  | none => .error (.notDecimal text)

/-- The first member whose value, written for a reader, is the text. -/
def memberOfText? (text : Text) : List Member → Except Fault (Option Member)
  | [] => .ok none
  | member :: rest => do
    let shown ← member.value.shown
    if shown = text then return some member else memberOfText? text rest

/-- A member of an enumeration, by its value or else by its name. -/
def Enumeration.read (enumeration : Enumeration) : TextReader := fun text => do
  match ← memberOfText? text enumeration.members with
  | some member => return enumeration.valueOf member
  | none =>
    match enumeration.find? text with
    | some member => return enumeration.valueOf member
    | none => .error (.notMember enumeration.name text)

/-- Readers by expected type, the latest first. -/
structure ConversionTable where
  /-- The types with their readers. -/
  readers : List (Expected × TextReader)

/-- The fault of looking a value up in a table, if it cannot be. -/
def Value.lookupFault? : Value → Option Fault
  | .list _ => some (.unhashable "list")
  | .mapping _ => some (.unhashable "dict")
  | .tuple items => lookupFaultOf? items
  | .decimal (.undefined true ..) => some .signalingKey
  | _ => none
where
  /-- The first fault among some items. -/
  lookupFaultOf? : List Value → Option Fault
    | [] => none
    | item :: rest => item.lookupFault? <|> lookupFaultOf? rest

mutual

/-- The fault of looking an expected type up in a table, if it cannot be. -/
def Expected.lookupFault? : Expected → Option Fault
  | .constant value => value.lookupFault?
  | .listOf item => item.lookupFault?
  | .union _ alternatives => lookupFaultAmong? alternatives
  | _ => none

/-- The first fault among some expected types. -/
def lookupFaultAmong? : List Expected → Option Fault
  | [] => none
  | expected :: rest => expected.lookupFault? <|> lookupFaultAmong? rest

end

/-- Whether text is left as it is. -/
def Expected.keepsText : Expected → Bool
  | .plain .text | .plain .object | .plain .unspecified | .any | .nothing => true
  | _ => false

namespace ConversionTable

/-- Texts, integers, floating numbers, booleans and decimals are converted from the beginning. -/
def initial : ConversionTable where
  readers :=
    [(.plain .text, fun text => .ok (.text text)),
      (.plain .int, fun text => (readInt 10 text).map .int),
      (.plain .float, fun text => (readDouble text).map .double),
      (.plain .bool, readFlag), (.plain .decimal, readDecimal)]

/-- Use a reader for a type from now on. What cannot be looked up is refused. -/
def register (table : ConversionTable) (expected : Expected) (reader : TextReader) :
    Except Fault ConversionTable :=
  match expected.lookupFault? with
  | some fault => .error fault
  | none => .ok ⟨(expected, reader) :: table.readers⟩

/-- The reader of an expected type. -/
def reader? (table : ConversionTable) (expected : Expected) : Option TextReader :=
  (table.readers.find? fun entry => entry.1.same expected).map Prod.snd

/-- The written form of an expected type, its fault passed on. -/
def writtenType (expected : Expected) : Outcome Text := expected.written.mapError .escaped

/-- The failure of a reader: faults of value and of type refuse the conversion, others are passed
on. -/
def readerFailure (text : Text) (expected : Expected) (fault : Fault) : Outcome Value :=
  if fault.isA "ValueError" ∨ fault.isA "TypeError" then do
    let written ← writtenType expected
    .error (.conversion (.refused text written fault))
  else .error (.ofFault fault)

/-- The conversion of text by the reader of an expected type that is no union. -/
def convertSingle (table : ConversionTable) (text : Text) (expected : Expected) :
    Outcome Value :=
  match expected.lookupFault? with
  | some fault => .error (.escaped fault)
  | none =>
    match table.reader? expected, expected with
    | some reader, expected =>
      match reader text with
      | .ok value => .ok value
      | .error fault => readerFailure text expected fault
    | none, .memberOf enumeration =>
      (enumeration.read text).mapError fun fault => .conversion (.notMember fault)
    | none, expected => do
      let written ← writtenType expected
      .error (.conversion (.noReader written))

/-- The conversion by the first alternative that does not refuse it; the type of the absent value
is passed over. -/
def convertFirst (table : ConversionTable) (text : Text) : List Expected → Outcome (Option Value)
  | [] => .ok none
  | alternative :: rest =>
    if alternative.isNothingType then table.convertFirst text rest
    else if alternative.keepsText then .ok (some (.text text))
    else
      match table.convertSingle text alternative with
      | .ok value => .ok (some value)
      | .error (.conversion _) => table.convertFirst text rest
      | .error failure => .error failure

/-- Convert text to what is expected. The empty text is the absent value where that is an
alternative. -/
def convert (table : ConversionTable) (text : Text) (expected : Expected) : Outcome Value :=
  if expected.keepsText then .ok (.text text)
  else
    match expected with
    | .union _ alternatives =>
      if text.isEmpty && alternatives.any Expected.isNothingType then .ok .nothing
      else do
        match ← table.convertFirst text alternatives with
        | some value => return value
        | none =>
          let texts ← (alternatives.mapM Expected.written).mapError .escaped
          .error (.conversion (.noAlternative text (writtenTuple texts)))
    | expected => table.convertSingle text expected

end ConversionTable
end Stencil
