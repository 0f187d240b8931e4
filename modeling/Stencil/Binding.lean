import Stencil.Matching
import Stencil.Conversion
import Stencil.Operation.Invocation

/-!
# Binding

A text that conforms to a pattern is bound to a target: the operation is looked up, the text of
each parameter is converted to what the operation expects there, and the operation is carried out
with the values.
-/
namespace Stencil

/-- The operation to be carried out: the one asked for unless its name is empty, or else the
pattern's own. -/
def Pattern.operationFor? (pattern : Pattern) (asked : Option Text) : Option Text :=
  (asked.filter fun name => !name.isEmpty) <|> pattern.operation?

/-- How operations are looked for, for a pattern. -/
def Pattern.convention (pattern : Pattern) : Convention := ⟨pattern.marker, pattern.construction⟩

/-- The failure of the argument at a position whose text is not converted to what is expected
there. A refused conversion is reported with the position; other failures are passed on, and so is
the fault of an expected type that has no name. -/
def argumentFailure (position : Nat) (text : Text) (expected : Expected) : Failure → Failure
  | .conversion cause =>
    match expected.name with
    | .ok name => .argument position text name cause
    | .error fault => .escaped fault
  | failure => failure

/-- A conversion of text to what is expected. -/
abbrev Converter := Text → Expected → Transition Value

/-- Text is converted by the readers of a table, which change nothing. -/
def ConversionTable.converter (table : ConversionTable) : Converter :=
  fun text expected state => (table.convert text expected, state)

/-- Convert texts to what is expected of them, from a position on. -/
def convertArguments (convert : Converter) :
    Nat → List (Text × Expected) → Transition (List Value)
  | _, [], state => (.ok [], state)
  | position, (text, expected) :: rest, state =>
    match convert text expected state with
    | (.error failure, state) => (.error (argumentFailure position text expected failure), state)
    | (.ok value, state) =>
      match convertArguments convert (position + 1) rest state with
      | (.error failure, state) => (.error failure, state)
      | (.ok values, state) => (.ok (value :: values), state)

/-- The operation and the values that a text asks for, if everything before the operation
succeeds. -/
def prepareBinding (pattern : Pattern) (text : Text) (target : Value) (asked : Option Text)
    (invoker : Invoker) (convert : Converter) : Transition (Text × List Value) := fun state =>
  match pattern.extract text with
  | none => (.error (.nonConforming pattern.template text), state)
  | some texts =>
    match pattern.operationFor? asked with
    | none => (.error (.noOperation pattern.template), state)
    | some name =>
      match invoker.argumentTypes target name texts.length state with
      | (.error failure, state) => (.error failure, state)
      | (.ok expected, state) =>
        if expected.length ≠ texts.length then
          (.error (.invocation name (.describedCount expected.length texts.length)), state)
        else
          match convertArguments convert 0 (texts.zip expected) state with
          | (.error failure, state) => (.error failure, state)
          | (.ok values, state) => (.ok (name, values), state)

/-- Bind a text to a target. -/
def bind (pattern : Pattern) (text : Text) (target : Value) (asked : Option Text)
    (invoker : Invoker) (convert : Converter) : Transition Value := fun state =>
  match prepareBinding pattern text target asked invoker convert state with
  | (.error failure, state) => (.error failure, state)
  | (.ok (name, values), state) => invoker.invoke target name values state

end Stencil
