import Stencil.CommandLine.Command
import Stencil.Settings.Find

/-!
# The command line

A command line has options of its own, then a command, then the command's words. The settings come
from the file that is named, or from the nearest one.
-/
namespace Stencil.CommandLine

/-- The version of the program. -/
def version : Text := "0.1.0"

/-- The options before a command. -/
def commonOptions : List OptionForm :=
  [⟨"--version", false⟩, ⟨"--config", true⟩, ⟨"--verbose", false⟩, Command.helpForm]

/-- The help on the command line. -/
def commonHelp : Text :=
  Report.line "Usage: sockit [OPTIONS] COMMAND [ARGS]..." ++
    (commonOptions.map fun form => Report.line ("  " ++ form.name)).flatten ++
    (Command.table.map fun entry => Report.line ("  " ++ entry.1)).flatten

/-- The first of the options that are answered at once. -/
def firstAnswer? (words : Words) : Option Report :=
  words.options.findSome? fun (name, _) =>
    if name = "--version" then
      some (.printed (Report.line ("sockit, version " ++ version)))
    else if name = Command.helpForm.name then some (.printed commonHelp)
    else none

/-- The command of a name; a word behind two dashes is still understood as an option if it looks
like one. -/
def findCommand (words : List Text) : Except UsageFault (Command × List Text) := do
  match words with
  | [] => throw .missingCommand
  | name :: rest =>
    match Command.table.lookup name with
    | some command => return (command, rest)
    | none =>
      let _ ← readWords commonOptions false words
      throw (.noSuchCommand name (Text.alike name (Command.table.map Prod.fst)))

/-- The settings of the file that is named, of the nearest one, or the initial ones. -/
def findConfiguration {m : Type → Type} [Monad m] (surroundings : Surroundings m)
    (named : Option (Path × Text)) : Step m Settings := do
  let found ←
    match named with
    | some (path, content) => pure (some (path, content))
    | none => do
      match ← (findSettings surroundings.look surroundings.directory : m (Option Path)) with
      | some path => do
        let entry ← (surroundings.look path : m Entry)
        pure (some (path, entry.content?.getD []))
      | none => pure none
  match found with
  | some (path, content) => require .ofFailure (Settings.ofText path.text content)
  | none => return .initial

/-- Carry a command line out step by step. -/
def steps {m : Type → Type} [Monad m] (surroundings : Surroundings m) (words : List Text) :
    Step m Report := do
  if words.isEmpty then throw { Report.misused .noWords with errors := commonHelp }
  let common ← require .misused (readWords commonOptions false words)
  if let some report := firstAnswer? common then return report
  let named ←
    match common.value? "--config" with
    | some word => some <$> requireFile surroundings "--config" word
    | none => pure none
  let (command, rest) ← require .misused (findCommand common.arguments)
  let settings ← findConfiguration surroundings named
  let level ← require .interrupted (settings.level (common.has "--verbose"))
  command.run surroundings settings level rest

/-- Carry a command line out. -/
def run {m : Type → Type} [Monad m] (surroundings : Surroundings m) (words : List Text) :
    m Report := do
  match ← (steps surroundings words).run with
  | .ok report | .error report => return report

end Stencil.CommandLine
