import Stencil.Failure
import Stencil.CommandLine.Words

/-!
# Reports of commands

What a command leaves behind: what it prints, what it says about errors, and a number that tells
whether it succeeded. A fault that no command answers for interrupts it.
-/
namespace Stencil.CommandLine

/-- What a command leaves behind. -/
structure Report where
  /-- Zero for success, one for a failure and two for a command that is not understood. -/
  exit : Nat
  /-- What is printed. -/
  output : Text
  /-- What is said about errors, and what is logged. -/
  errors : Text
  /-- The fault that interrupted the command. -/
  fault : Option Fault

namespace Report

/-- A text as a line. -/
def line (text : Text) : Text := text ++ ['\n']

/-- A command that printed something and succeeded. -/
def printed (output : Text) : Report := ⟨0, output, [], none⟩

/-- A command that failed for a reason. -/
def failed (message : Text) : Report := ⟨1, [], line ("Error: " ++ message), none⟩

/-- A command that was interrupted. -/
def interrupted (fault : Fault) : Report := ⟨1, [], [], some fault⟩

/-- A command line that was not understood. -/
def misused (fault : UsageFault) : Report :=
  let advice := line "Try 'sockit --help' for help." ++ line []
  ⟨2, [], advice ++ line ("Error: " ++ fault.message), none⟩

/-- A command that ended in a failure of the library. -/
def ofFailure : Failure → Report
  | .escaped fault => interrupted fault
  | failure => failed failure.message

/-- What was logged before. -/
def afterLog (log : Text) (report : Report) : Report :=
  { report with errors := log ++ report.errors }

end Report

/-- A step of a command, which may end with its report. -/
abbrev Step (m : Type → Type) (α : Type) := ExceptT Report m α

/-- The result of something that can fail, whose failure ends the command. -/
def require {m : Type → Type} [Monad m] {ε α : Type} (report : ε → Report) :
    Except ε α → Step m α
  | .ok value => pure value
  | .error reason => throw (report reason)

end Stencil.CommandLine
