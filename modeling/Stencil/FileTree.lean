import Stencil.Path

/-!
# Files

What a path leads to, and files held as a tree. A step is taken only from a directory, also a step
back.
-/
namespace Stencil

/-- What a path leads to. -/
inductive Entry
  /-- Nothing. -/
  | missing
  /-- A directory. -/
  | directory
  /-- A file with a text. -/
  | file (content : Text)
deriving DecidableEq, Repr

/-- The text of a file. -/
def Entry.content? : Entry → Option Text
  | file content => some content
  | _ => none

/-- Files and directories, by their steps from the root. Each file lies in directories. -/
structure FileTree where
  /-- The files with their texts. -/
  files : List (List Text × Text)
  /-- The directories that need not hold a file. -/
  directories : List (List Text)

namespace FileTree

/-- Whether there is a directory: one that is named, or one around it or around a file. -/
def isDirectory (tree : FileTree) (steps : List Text) : Bool :=
  steps.isEmpty || tree.directories.any steps.isPrefixOf ||
    tree.files.any fun file => steps.isPrefixOf file.1 && file.1 != steps

/-- What stands in the tree behind some steps. -/
def at? (tree : FileTree) (steps : List Text) : Entry :=
  match tree.files.lookup steps with
  | some content => .file content
  | none => if tree.isDirectory steps then .directory else .missing

/-- Follow steps from some that have been taken; each is taken from a directory. -/
def follow (tree : FileTree) (taken : List Text) : List Text → Entry
  | [] => tree.at? taken
  | step :: rest =>
    if tree.at? taken = .directory then
      tree.follow (if Path.isBack step then taken.dropLast else taken ++ [step]) rest
    else .missing

/-- What a path leads to, followed from a directory. -/
def look (tree : FileTree) (directory path : Path) : Entry :=
  tree.follow [] (path.after directory).steps

end FileTree
end Stencil
