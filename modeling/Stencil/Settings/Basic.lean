import Stencil.Failure
import Stencil.Value.Printer
import Stencil.Value.Order

/-!
# Settings

Settings say how templates are read, how many patterns are remembered and what is logged. They are
read from files and are checked (`Settings.problems`), but their values may be of any type, and a
value of a wrong type shows only where it is used.
-/
namespace Stencil

/-- Whether a value counts as true. -/
def Value.isTruthy : Value → Bool
  | .nothing => false
  | .flag truth => truth
  | .int number => number ≠ 0
  | .double (.finite _ significand _) => significand ≠ 0
  | .decimal (.finite _ coefficient _) => coefficient ≠ 0
  | .text content => !content.isEmpty
  | .bytes content => !content.isEmpty
  | .list items | .tuple items | .set items => !items.isEmpty
  | .mapping entries => !entries.isEmpty
  | _ => true

/-- Settings. -/
structure Settings where
  /-- What a keyword ends in. -/
  marker : Value
  /-- What the name of a constructing operation begins with. -/
  construction : Value
  /-- Whether unbalanced parentheses are refused. -/
  strict : Value
  /-- How many patterns are remembered. -/
  cacheSize : Value
  /-- The least level of messages that are logged. -/
  logLevel : Value

namespace Settings

/-- What holds where nothing else is said. -/
def initial : Settings where
  marker := .text ":"
  construction := .text "init"
  strict := .flag false
  cacheSize := .int 128
  logLevel := .text "WARNING"

/-- The settings by name, in order. -/
def entries (settings : Settings) : List (Text × Value) :=
  [("argument_marker", settings.marker), ("construction_prefix", settings.construction),
    ("strict_delimiters", settings.strict), ("cache_size", settings.cacheSize),
    ("log_level", settings.logLevel)]

/-- The names of the settings. -/
def names : List Text := initial.entries.map Prod.fst

/-- The settings with one of them changed; there are no settings of other names. -/
def set? (settings : Settings) (name : Text) (value : Value) : Option Settings :=
  if name = "argument_marker" then some { settings with marker := value }
  else if name = "construction_prefix" then some { settings with construction := value }
  else if name = "strict_delimiters" then some { settings with strict := value }
  else if name = "cache_size" then some { settings with cacheSize := value }
  else if name = "log_level" then some { settings with logLevel := value }
  else none

/-- The settings that differ from the initial ones as the entries say. -/
def ofEntries (entries : List (Text × Value)) : Except Fault Settings :=
  entries.foldlM
    (fun settings (name, value) =>
      match settings.set? name value with
      | some settings => .ok settings
      | none => .error (.unexpectedArgument "SockitConfig.__init__" name))
    initial

/-- The types of values that have no objects of their own are named without them. -/
def typeName (value : Value) : Text := value.operandName fun _ => "object"

/-- Whether a character is part of a value. -/
def holdsChar (char : Char) : Value → Except Fault Bool
  | .text content => .ok (content.contains char)
  | .list items | .tuple items | .set items =>
    holdsOfSome (fun item => Value.same item (.text [char])) items
  | .mapping entries =>
    holdsOfSome (fun entry : Value × Value => Value.same entry.1 (.text [char])) entries
  | .bytes _ => .error .textInBytes
  | value => .error (.noContainer (typeName value))

/-- Whether a value is a negative number. -/
def isNegative (value : Value) : Except Fault Bool :=
  match value.number? with
  | some number => number.ordered .less (.int 0)
  | none => .error (.ordering "<" (typeName value) "int")

/-- A value in capitals. -/
def inCapitals : Value → Except Fault Value
  | .text content => .ok (.text (Text.upper content))
  | .bytes content => .ok (.bytes content)
  | value => .error (.noAttribute (typeName value) "upper")

/-- The names of the levels that settings may name. -/
def levelNames : List Text := ["DEBUG", "INFO", "WARNING", "ERROR", "CRITICAL"]

/-- What is wrong with the settings, in order; a value of a type that cannot be checked is a
fault. -/
def problems (settings : Settings) : Except Fault (List Text) := do
  let bracketed ←
    holdsOfSome (fun char => holdsChar char settings.marker) ['(', ')']
  let negative ← isNegative settings.cacheSize
  let level ← inCapitals settings.logLevel
  let known := level.text?.any levelNames.contains
  let shown ← settings.logLevel.shown
  let report := fun (wrong : Bool) (problem : Text) => if wrong then [problem] else []
  return report (!settings.marker.isTruthy) "argument_marker must not be empty" ++
    report bracketed "argument_marker must not contain parentheses" ++
    report (!settings.construction.isTruthy) "construction_prefix must not be empty" ++
    report negative "cache_size must be zero or positive" ++
    report (!known) ("Unknown log_level: " ++ shown)

/-- How templates are read under settings whose texts are texts. -/
def dialect (marker construction : Text) (settings : Settings) : Dialect :=
  ⟨marker, construction, settings.strict.isTruthy⟩

/-- The warnings of reading a template. -/
def warnings (settings : Settings) (template : Text) : List Text :=
  match scan settings.strict.isTruthy template with
  | .ok ⟨_, some position⟩ => [unterminatedWarning template position]
  | _ => []

/-- The failure of comparing tokens with a marker that is no text: there is none without
parameters. -/
def markerFault? (settings : Settings) (template : Text) : Option Fault :=
  match settings.marker, scan settings.strict.isTruthy template with
  | .text _, _ | _, .error _ => none
  | value, .ok scan =>
    if scan.tokens.any fun token => token.kind == .parameter then
      some (.affix "endswith" (typeName value))
    else none

/-- Read a template under settings. -/
def compile (settings : Settings) (template : Text) : Outcome Pattern :=
  match settings.markerFault? template with
  | some fault => .error (.escaped fault)
  | none =>
    let dialect :=
      settings.dialect (settings.marker.text?.getD []) (settings.construction.text?.getD [])
    (Stencil.compile dialect template).mapError (.template template)

/-- Whether the operation of a pattern constructs an object; an operation cannot be compared with
a beginning that is no text. -/
def constructs (settings : Settings) (pattern : Pattern) : Except Fault Bool :=
  match pattern.operation?, settings.construction with
  | some _, .text _ => .ok pattern.isConstructor
  | some _, value => .error (.affix "startswith" (typeName value))
  | none, _ => .ok false

end Settings
end Stencil
