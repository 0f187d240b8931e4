import Stencil.Assignment
import Stencil.CommandLine.Json
import Stencil.CommandLine.Report
import Stencil.FileTree
import Stencil.Matching
import Stencil.Rendering
import Stencil.Settings.File
import Stencil.Settings.Logging

/-!
# Commands

A command compiles a template and shows it, compares a text with it, extracts what a text has in
its places, or renders data through it.
-/
namespace Stencil.CommandLine

/-- Something that can be done with a template. -/
inductive Command
  /-- Show how it is read. -/
  | compile
  /-- Say whether a text conforms to it. -/
  | test
  /-- Print what a text has in its places. -/
  | extract
  /-- Fill its places from data. -/
  | render
deriving DecidableEq, Repr

namespace Command

/-- The commands by their names. -/
def table : List (Text × Command) :=
  [("compile", compile), ("match", test), ("extract", extract), ("render", render)]

/-- The names of the arguments that a command takes. -/
def arguments : Command → List Text
  | compile | render => ["TEMPLATE"]
  | test | extract => ["TEMPLATE", "TEXT"]

/-- The option that asks for help. -/
def helpForm : OptionForm := ⟨"--help", false⟩

/-- The options that a command takes. -/
def options : Command → List OptionForm
  | compile | extract => [⟨"--json", false⟩, helpForm]
  | test => [helpForm]
  | render => [⟨"--data", true⟩, ⟨"--set", true⟩, helpForm]

/-- The help on a command. -/
def help (command : Command) : Text :=
  let name := ((table.find? fun entry => entry.2 = command).map Prod.fst).getD []
  Report.line ("Usage: sockit " ++ name ++ " [OPTIONS] " ++ Text.join " " command.arguments) ++
    (command.options.map fun form => Report.line ("  " ++ form.name)).flatten

end Command

/-- The surroundings of a command. -/
structure Surroundings (m : Type → Type) where
  /-- What a path leads to. -/
  look : Path → m Entry
  /-- The directory in which the command runs. -/
  directory : Path

/-- The path that an option gives, which must lead to a file, and the text of that file. -/
def requireFile {m : Type → Type} [Monad m] (surroundings : Surroundings m) (name word : Text) :
    Step m (Path × Text) := do
  let path := Path.ofText word
  let entry ← if word.isEmpty then pure Entry.missing else (surroundings.look path : m Entry)
  match entry with
  | .file content => return (path, content)
  | .directory => throw (.misused (.notFile name word))
  | .missing => throw (.misused (.noFile name word))

/-- The lines of the records of at least a level. -/
def logged (level : Level) (records : List Record) : Text :=
  let shown := records.filter fun record => level.rank ≤ record.level.rank
  (shown.map fun record =>
    Report.line (record.level.word ++ " sockit.parser: " ++ record.message)).flatten

/-! ## Showing a template -/

/-- What a segment is. -/
def segmentWord : Segment → Text
  | .literal _ => "literal"
  | .parameter _ => "parameter"

/-- The report on a pattern, given whether it constructs. -/
def patternJson (pattern : Pattern) (constructs : Bool) : Json :=
  let segments := pattern.segments.map fun segment =>
    Json.object [("kind", .text (segmentWord segment)), ("text", .text segment.text)]
  let use : List (Text × Json) :=
    match pattern.operation? with
    | some operation => [("operation", .text operation), ("constructor", .flag constructs)]
    | none => [("key_paths", .list (pattern.keyPaths.map .text))]
  .object (("template", .text pattern.template) :: ("mode", .text pattern.direction.word) ::
    ("segments", .list segments) :: use)

/-- The line of a segment. -/
def segmentLine (segment : Segment) : Text :=
  let label : Text := if segment.isParameter then "param" else "literal"
  Report.line ("  " ++ Text.padRight 8 label ++ Text.quoted segment.text)

/-- The lines about a pattern. -/
def patternLines (pattern : Pattern) : Text :=
  let use :=
    match pattern.operation? with
    | some operation => Report.line ("Operation: " ++ operation)
    | none =>
      if pattern.keyPaths.isEmpty then []
      else Report.line ("Key paths: " ++ Text.join ", " pattern.keyPaths)
  Report.line ("Mode: " ++ pattern.direction.word) ++
    (pattern.segments.map segmentLine).flatten ++ use

/-- Show how a template is read. -/
def showPattern (settings : Settings) (pattern : Pattern) (asJson : Bool) : Report :=
  match settings.constructs pattern with
  | .error fault => .interrupted fault
  | .ok constructs =>
    .printed
      (if asJson then
        Report.line ((patternJson pattern constructs).written (.indented 0))
      else patternLines pattern)

/-! ## Comparing a text -/

/-- Say whether a text conforms to a pattern. -/
def testText (pattern : Pattern) (text : Text) : Report :=
  if pattern.conforms text then .printed (Report.line "conforms")
  else { Report.printed (Report.line "does not conform") with exit := 1 }

/-- Print what a text has in the places of a pattern. -/
def extractText (pattern : Pattern) (text : Text) (asJson : Bool) : Report :=
  match pattern.extract text with
  | none => .failed ("'" ++ text ++ "' does not conform to '" ++ pattern.template ++ "'")
  | some values =>
    .printed
      (if asJson then Report.line ((Json.list (values.map .text)).written .oneLine)
      else ((pattern.tokens.zip values).map fun (token, value) =>
        Report.line (token ++ '\t' :: value)).flatten)

/-! ## Rendering data -/

/-- The entries of the data in a file. -/
def dataEntries (path : Path) (content : Text) : Except Report (List (Value × Value)) :=
  match Yaml.read content with
  | .ok .nothing => .ok []
  | .ok (.mapping entries) => .ok entries
  | .ok _ => .error (.failed ("Data in " ++ path.text ++ " must be a mapping"))
  | .error (.malformed problem) =>
    .error (.failed ("Invalid data file " ++ path.text ++ ": " ++ problem.message))
  | .error (.failed fault) => .error (.interrupted fault)

/-- The assignments that words describe. -/
def readAssignments (words : List Text) : Except UsageFault (List Assignment) :=
  words.mapM fun word =>
    match Assignment.ofWord? word with
    | some assignment => .ok assignment
    | none => .error (.notAssignment word)

/-- Render data through a pattern, with some entries assigned. -/
def renderData (pattern : Pattern) (data : Option (Path × Text)) (words : List Text) :
    Except Report Report := do
  let entries ←
    match data with
    | some (path, content) => dataEntries path content
    | none => .ok []
  let assignments ← (readAssignments words).mapError .misused
  let entries := assignments.foldl (fun entries assignment => assignment.carryOut entries) entries
  let renderer := State.renderer ⟨.empty, .empty⟩
  let text ← (renderer.render pattern (.mapping entries)).mapError .ofFailure
  return .printed (Report.line text)

/-! ## Carrying a command out -/

/-- Carry a command out on a pattern and the arguments behind the template. -/
def carryOut (settings : Settings) (command : Command) (pattern : Pattern) (arguments : List Text)
    (words : Words) (data : Option (Path × Text)) : Report :=
  let text := arguments.headD []
  match command with
  | .compile => showPattern settings pattern (words.has "--json")
  | .test => testText pattern text
  | .extract => extractText pattern text (words.has "--json")
  | .render =>
    match renderData pattern data (words.values "--set") with
    | .ok report | .error report => report

/-- Compile a template and carry a command out on it; what is logged comes first. -/
def perform (settings : Settings) (level : Level) (command : Command) (arguments : List Text)
    (words : Words) (data : Option (Path × Text)) : Report :=
  let template := arguments.headD []
  let report :=
    match settings.compile template with
    | .ok pattern => carryOut settings command pattern arguments.tail words data
    | .error failure => .ofFailure failure
  report.afterLog (logged level (settings.records template))

/-- Run a command with the words behind its name. -/
def Command.run {m : Type → Type} [Monad m] (surroundings : Surroundings m) (settings : Settings)
    (level : Level) (command : Command) (words : List Text) : Step m Report := do
  let words ← require .misused (readWords command.options true words)
  if words.has helpForm.name then return .printed command.help
  let data ←
    match words.value? "--data" with
    | some word => some <$> requireFile surroundings "--data" word
    | none => pure none
  let arguments ← require .misused (namedArguments command.arguments words.arguments)
  return perform settings level command arguments words data

end Stencil.CommandLine
