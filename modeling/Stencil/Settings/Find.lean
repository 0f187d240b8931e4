import Stencil.FileTree

/-!
# Finding settings

Where no file of settings is named, the nearest one is taken: the first file of the usual name in
a directory or in those around it.
-/
namespace Stencil

/-- The usual name of files with settings. -/
def settingsFileName : Text := "sockit.yaml"

/-- The first of some paths that leads to a file. -/
def firstFile {m : Type → Type} [Monad m] (look : Path → m Entry) : List Path → m (Option Path)
  | [] => pure none
  | path :: rest => do
    match ← look path with
    | .file _ => return some path
    | _ => firstFile look rest

/-- The files of the usual name in a directory and in those around it, the nearest first. -/
def settingsCandidates (directory : Path) : List Path :=
  (Path.outwards directory.resolved.steps).map fun steps =>
    ⟨directory.absolute, steps ++ [settingsFileName]⟩

/-- The nearest file of settings. -/
def findSettings {m : Type → Type} [Monad m] (look : Path → m Entry) (directory : Path) :
    m (Option Path) :=
  firstFile look (settingsCandidates directory)

end Stencil
