import Stencil.Value.Printer
import Stencil.Template.Pattern
import Stencil.Yaml.Basic

/-!
# Failures

The failures of the library: each says what was asked for and why it could not be done, and has a
wording (`Failure.message`). A fault that no part of the library answers for is passed on as it is.
-/
namespace Stencil

/-- Why a key path leads nowhere. -/
inductive PathFault
  /-- The path is empty. -/
  | emptyPath
  /-- A component is empty. -/
  | emptyComponent
  /-- A key is private. -/
  | privateKey (key : Text)
  /-- There is no value of a key; what answers look-ups itself gives the kind of its fault. -/
  | noValue (key : Text) (cause : Option Text)
  /-- A key is read from the absent value. -/
  | readNothing (key : Text)
  /-- A value of a type lacks an attribute; the kind of the fault is given. -/
  | noAttribute (type key cause : Text)
  /-- There is no operator of a name. -/
  | unknownOperator (name : Text)
  /-- An operator is applied to a value of a type that is no collection. -/
  | needsCollection (operator type : Text)
  /-- Nothing follows an operator that needs a path. -/
  | needsPath (operator : Text)
  /-- An operator fails on the values found. -/
  | operatorFailed (operator : Text) (fault : Fault)
deriving DecidableEq, Repr

namespace PathFault

/-- The wording of the reason. -/
def message : PathFault → Text
  | emptyPath => "empty key path"
  | emptyComponent => "empty path component"
  | privateKey key => "private key '" ++ key ++ "' is not accessible"
  | noValue key _ => "no value for key '" ++ key ++ "'"
  | readNothing key => "cannot read '" ++ key ++ "' from None"
  | noAttribute type key _ => type ++ " has no attribute '" ++ key ++ "'"
  | unknownOperator name => "unknown collection operator '@" ++ name ++ "'"
  | needsCollection operator type =>
    "'@" ++ operator ++ "' needs a collection, got " ++ type
  | needsPath operator => "'@" ++ operator ++ "' needs a key path to its right"
  | operatorFailed operator fault => "'@" ++ operator ++ "' failed: " ++ fault.message

/-- The kind of the fault behind the reason, if there is one. -/
def cause? : PathFault → Option Text
  | noValue _ cause => cause
  | noAttribute _ _ cause => some cause
  | operatorFailed _ fault => some fault.kind
  | _ => none

end PathFault

/-- Why a text is not converted. -/
inductive ConversionFault
  /-- The reader of the expected type fails. -/
  | refused (text expected : Text) (fault : Fault)
  /-- The text is no member of the expected enumeration. -/
  | notMember (fault : Fault)
  /-- There is no reader of the expected type. -/
  | noReader (expected : Text)
  /-- No alternative of the expected union reads the text. -/
  | noAlternative (text alternatives : Text)
  /-- A reader or an operation raises this failure itself. -/
  | raised (fault : Fault)
deriving DecidableEq, Repr

namespace ConversionFault

/-- The wording of a refused conversion. -/
def message : ConversionFault → Text
  | refused text expected fault =>
    "Cannot convert " ++ Text.quoted text ++ " to " ++ expected ++ ": " ++ fault.message
  | notMember fault => fault.message
  | noReader expected => "No converter registered for " ++ expected
  | noAlternative text alternatives =>
    "Cannot convert " ++ Text.quoted text ++ " to any of " ++ alternatives
  | raised fault => fault.message

/-- The kind of the fault behind a refused conversion, if there is one. -/
def cause? : ConversionFault → Option Text
  | refused _ _ fault | notMember fault => some fault.kind
  | _ => none

end ConversionFault

/-- Why an operation is not carried out. -/
inductive InvocationFault
  /-- An initializer is asked of an object, or under a name that does not construct. -/
  | constructionNeedsClass
  /-- A type has no operation of a name. -/
  | noOperation (type name : Text)
  /-- An assignment is given another number of values than one. -/
  | assignmentCount (given : Nat)
  /-- An operation of so many parameters is given another number of values. -/
  | argumentCount (most given : Nat)
  /-- An invoker describes another number of parameters than there are values. -/
  | describedCount (described given : Nat)
  /-- The operation fails. -/
  | failed (fault : Fault)
deriving DecidableEq, Repr

namespace InvocationFault

/-- The wording of the reason. -/
def message : InvocationFault → Text
  | constructionNeedsClass => "construction needs a class target"
  | noOperation type name => type ++ " has no operation '" ++ name ++ "'"
  | assignmentCount given => "assignment takes 1 argument, got " ++ natText given
  | argumentCount most given =>
    "expects " ++ natText most ++ " argument(s), pattern provides " ++ natText given
  | describedCount described given =>
    "invoker describes " ++ natText described ++ " argument(s), pattern provides " ++
      natText given
  | failed fault => fault.kind ++ ": " ++ fault.message

/-- The kind of the fault behind the reason, if there is one. -/
def cause? : InvocationFault → Option Text
  | failed fault => some fault.kind
  | _ => none

end InvocationFault

/-- Why a file holds no settings. -/
inductive SettingsFault
  /-- It is no YAML document. -/
  | malformed (problem : Yaml.Problem)
  /-- Its document is no mapping. -/
  | notMapping
  /-- It names settings that do not exist. -/
  | unknownNames (names : List Text)
  /-- A setting has a value of a wrong type. -/
  | illTyped (fault : Fault)
  /-- The settings have problems. -/
  | problems (found : List Text)
deriving DecidableEq, Repr

namespace SettingsFault

/-- The wording of the reason, given the path of the file. -/
def message (path : Text) : SettingsFault → Text
  | malformed problem => "Invalid YAML in " ++ path ++ ": " ++ problem.message
  | notMapping => "Config in " ++ path ++ " must be a mapping"
  | unknownNames names => "Unknown config keys in " ++ path ++ ": " ++ Text.join ", " names
  | illTyped fault => "Invalid config values in " ++ path ++ ": " ++ fault.message
  | problems found => "Invalid config in " ++ path ++ ": " ++ Text.join "; " found

/-- The kind of the fault behind the reason, if there is one. -/
def cause? : SettingsFault → Option Text
  | malformed problem => some problem.kind
  | illTyped fault => some fault.kind
  | _ => none

end SettingsFault

/-- A failure of the library, or a fault passed on. -/
inductive Failure
  /-- A template is no pattern. -/
  | template (template : Text) (cause : CompileFault)
  /-- An outbound pattern is rendered. -/
  | notInbound (template : Text)
  /-- A pattern without operation is bound without one. -/
  | noOperation (template : Text)
  /-- A key path leads nowhere. -/
  | resolution (path : Text) (cause : PathFault)
  /-- A text does not conform to a template. -/
  | nonConforming (template text : Text)
  /-- A text is not converted. -/
  | conversion (cause : ConversionFault)
  /-- The text for an argument is not converted to what is expected there. -/
  | argument (position : Nat) (text expected : Text) (cause : ConversionFault)
  /-- An operation is not carried out. -/
  | invocation (operation : Text) (cause : InvocationFault)
  /-- A file holds no settings. -/
  | settings (path : Text) (cause : SettingsFault)
  /-- A fault that no part of the library answers for. -/
  | escaped (fault : Fault)
deriving DecidableEq, Repr

/-- The outcome of an operation of the library. -/
abbrev Outcome (α : Type) := Except Failure α

/-- A list of texts in their quoted form. -/
def writtenTexts (texts : List Text) : Text := bracketed "[" "]" (texts.map Text.quoted)

/-- The wording of a refused template. -/
def CompileFault.message (template : Text) : CompileFault → Text
  | unbalanced (.unmatchedClose position) =>
    "Unmatched ')' at position " ++ natText position ++ " in '" ++ template ++ "'"
  | unbalanced (.unterminated position) =>
    "Unterminated parameter opened at position " ++ natText position ++ " in '" ++ template ++ "'"
  | unbalanced (.nestedOpen position) =>
    "Nested '(' at position " ++ natText position ++ " in '" ++ template ++ "'"
  | mixed keywords keyPaths =>
    "Template '" ++ template ++ "' mixes operation keywords " ++ writtenTexts keywords ++
      " with key paths " ++ writtenTexts keyPaths

/-- The wording of the warning that a parameter lacks its closing parenthesis. -/
def unterminatedWarning (template : Text) (position : Nat) : Text :=
  "Unterminated parameter at position " ++ natText position ++ " in " ++ Text.quoted template ++
    "; treating the remainder as its token"

namespace Failure

/-- The word that reports the class of a failure. -/
def kind : Failure → Text
  | template _ (.unbalanced _) => "CompileError"
  | template _ (.mixed ..) => "ClassificationError"
  | notInbound _ | noOperation _ => "PatternModeError"
  | resolution .. => "ResolutionError"
  | nonConforming .. => "NonConformingInputError"
  | conversion (.raised fault) => fault.kind
  | conversion _ => "CoercionError"
  | argument .. => "ArgumentCoercionError"
  | invocation .. => "InvocationError"
  | settings .. => "ConfigError"
  | escaped fault => fault.kind

/-- The wording of a failure. -/
def message : Failure → Text
  | .template whole cause => cause.message whole
  | notInbound whole => "Cannot render outbound pattern '" ++ whole ++ "' from an object"
  | noOperation whole =>
    "Pattern '" ++ whole ++ "' is " ++ Direction.inbound.word ++
      "; pass an explicit operation to bind it"
  | resolution path cause => "Cannot resolve key path '" ++ path ++ "': " ++ cause.message
  | nonConforming whole text =>
    "'" ++ text ++ "' does not conform to pattern '" ++ whole ++ "'"
  | conversion cause => cause.message
  | argument position text expected _ =>
    "Argument " ++ natText position ++ ": cannot convert '" ++ text ++ "' to " ++ expected
  | invocation operation cause => "Cannot invoke '" ++ operation ++ "': " ++ cause.message
  | settings path cause => cause.message path
  | escaped fault => fault.message

/-- The kind of the fault behind a failure, if there is one. -/
def cause? : Failure → Option Text
  | resolution _ cause => cause.cause?
  | conversion cause => cause.cause?
  | argument _ _ _ cause => some (kind (.conversion cause))
  | invocation _ cause => cause.cause?
  | settings _ cause => cause.cause?
  | _ => none

/-- What a failure carries, by name; a fault passed on carries nothing of the library's. -/
def fields? : Failure → Option (List (Text × Value))
  | .template whole (.unbalanced _) => some [("template", .text whole)]
  | .template whole (.mixed keywords keyPaths) =>
    some [("template", .text whole), ("keyword_tokens", .list (keywords.map .text)),
      ("key_path_tokens", .list (keyPaths.map .text))]
  | resolution path cause =>
    some [("key_path", .text path), ("reason", .text cause.message)]
  | nonConforming whole text => some [("template", .text whole), ("text", .text text)]
  | argument position text .. => some [("position", .int position), ("text", .text text)]
  | invocation operation cause =>
    some [("operation", .text operation), ("reason", .text cause.message)]
  | notInbound _ | noOperation _ | conversion _ | settings .. => some []
  | escaped fault => if fault.isA "SockitError" then some [] else none

/-- The class of the faults that are refused conversions. -/
def conversionClass : Text := "CoercionError"

/-- The failure that a fault is: a refused conversion if it is one, or else a fault passed on. -/
def ofFault (fault : Fault) : Failure :=
  if fault.isA conversionClass then .conversion (.raised fault) else .escaped fault

end Failure
end Stencil
