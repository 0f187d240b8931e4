import Stencil.Value.Basic

/-!
# Assignments

An assignment sets an entry of a mapping to a text. Dots in its key lead into mappings, which are
made where there are none.
-/
namespace Stencil

/-- The entries of the mapping that stands under a name, if there is one. -/
def entriesUnder (name : Text) : List (Value × Value) → List (Value × Value)
  | [] => []
  | (.text other, value) :: rest =>
    if other = name then (value.entries?.getD []) else entriesUnder name rest
  | _ :: rest => entriesUnder name rest

/-- Put a value under a name: a name that is there already keeps its place. -/
def putUnder (name : Text) (value : Value) : List (Value × Value) → List (Value × Value)
  | [] => [(.text name, value)]
  | (.text other, old) :: rest =>
    if other = name then (.text other, value) :: rest
    else (.text other, old) :: putUnder name value rest
  | entry :: rest => entry :: putUnder name value rest

/-- Set what the names lead to, one mapping within another; whatever else stands under one of them
gives way to a mapping. -/
def assignUnder (text : Text) : List Text → List (Value × Value) → List (Value × Value)
  | [], entries => entries
  | [name], entries => putUnder name (.text text) entries
  | name :: names, entries =>
    putUnder name (.mapping (assignUnder text names (entriesUnder name entries))) entries

/-- A text and the key it is assigned to. -/
structure Assignment where
  /-- The names that lead to the place. -/
  names : List Text
  /-- What stands there afterwards. -/
  text : Text
deriving DecidableEq, Repr

namespace Assignment

/-- Read an assignment: a key that is not empty, an equals sign and a text. -/
def ofWord? (word : Text) : Option Assignment :=
  match Text.cutAt '=' word with
  | (_ :: _, some text) => some ⟨Text.splitOn "." (Text.cutAt '=' word).1, text⟩
  | _ => none

/-- Carry an assignment out. -/
def carryOut (assignment : Assignment) (entries : List (Value × Value)) : List (Value × Value) :=
  assignUnder assignment.text assignment.names entries

end Assignment
end Stencil
