import Stencil.Text.Basic

/-!
# Paths

A path leads through directories to a file, from the root or from a directory of its own. Empty
steps and steps that stay are left out of it; steps back are taken only where the path is resolved.
-/
namespace Stencil

/-- A path to a file or a directory. -/
structure Path where
  /-- Whether it begins at the root. -/
  absolute : Bool
  /-- The steps of the path. -/
  steps : List Text
deriving DecidableEq, Repr

namespace Path

/-- The path that a text describes. -/
def ofText (text : Text) : Path :=
  let steps := (Text.splitOn "/" text).filter fun step => !step.isEmpty && step != ['.']
  ⟨text.startsWith "/", steps⟩

/-- The text of a path; one without steps stays where it is. -/
def text (path : Path) : Text :=
  if path.absolute then '/' :: Text.join "/" path.steps
  else if path.steps.isEmpty then ['.']
  else Text.join "/" path.steps

/-- A path followed from a directory; one from the root stays as it is. -/
def after (path directory : Path) : Path :=
  if path.absolute then path else { directory with steps := directory.steps ++ path.steps }

/-- Whether a step leads back. -/
def isBack (step : Text) : Bool := step = ".."

/-- The steps that are left when each step back has taken one away; at the root there is none. -/
def resolvedSteps (steps : List Text) : List Text :=
  steps.foldl (fun taken step => if isBack step then taken.dropLast else taken ++ [step]) []

/-- The path without steps back. -/
def resolved (path : Path) : Path := { path with steps := resolvedSteps path.steps }

/-- The steps to a directory and to those around it, the innermost first. -/
def outwards (steps : List Text) : List (List Text) :=
  ((List.range (steps.length + 1)).map fun count => steps.take count).reverse

end Path
end Stencil
