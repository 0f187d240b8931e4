import Stencil.CommandLine.Run

/-!
# The program

The command line of the process is carried out in its working directory: its files are read as they
are, and the report is printed.
-/
namespace Stencil.CommandLine

/-- What a path leads to in the file system. What exists but cannot be read as text is taken for a
directory. -/
def lookUp (path : Path) : IO Entry := do
  try
    return .file (← IO.FS.readFile path.text.toStr).toList
  catch
    | .noFileOrDirectory .. => return .missing
    | _ => return .directory

end Stencil.CommandLine

open Stencil Stencil.CommandLine in
/-- Carry out the command line and print the report. -/
def main (words : List String) : IO UInt32 := do
  let directory := Path.ofText (toString (← IO.currentDir)).toList
  let report ← run ⟨lookUp, directory⟩ (words.map String.toList)
  (← IO.getStdout).putStr report.output.toStr
  (← IO.getStderr).putStr report.errors.toStr
  if let some fault := report.fault then
    (← IO.getStderr).putStrLn (fault.kind ++ ": " ++ fault.message).toStr
  return report.exit.toUInt32
