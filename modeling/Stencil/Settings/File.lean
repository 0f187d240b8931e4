import Stencil.Settings.Basic
import Stencil.Yaml.Document
import Stencil.Yaml.Writer

/-!
# Settings in files

Settings are kept as a mapping in a YAML document. A document is refused if it names settings that
do not exist, or if the settings it gives have problems; settings that it does not give are the
initial ones.
-/
namespace Stencil.Settings

/-- Values in ascending order; values of different types have none. -/
def sortedKeys (keys : List Value) : Except Fault (List Value) :=
  keys.foldlM
    (fun sorted key => insertSorted (Value.ordered (fun _ => "object") .less) key sorted) []

/-- The texts among which there is nothing else. -/
def textsOf (values : List Value) : Except Fault (List Text) :=
  values.zipIdx.mapM fun (value, index) =>
    match value with
    | .text content => .ok content
    | value => .error (.joinItem index (typeName value))

/-- The names that no settings have, in order. -/
def unknownNames (entries : List (Value × Value)) : Except Fault (List Text) := do
  let isKnown := fun key : Value => key.text?.any names.contains
  let unknown := (entries.map Prod.fst).filter fun key => !isKnown key
  textsOf (← sortedKeys unknown)

/-- The settings that entries of known names give. -/
def ofKnown (entries : List (Value × Value)) : Settings :=
  entries.foldl
    (fun settings (key, value) =>
      (key.text?.bind fun name => settings.set? name value).getD settings)
    initial

/-- The settings that a value gives, which was read from a file: a mapping of known names, or
nothing at all. -/
def ofValue (path : Text) (value : Value) : Outcome Settings := do
  let entries ← match value with
    | .nothing => pure []
    | .mapping entries => pure entries
    | _ => throw (.settings path .notMapping)
  let unknown ← (unknownNames entries).mapError .escaped
  if !unknown.isEmpty then throw (.settings path (.unknownNames unknown))
  let settings := ofKnown entries
  match settings.problems with
  | .error fault => throw (.settings path (.illTyped fault))
  | .ok [] => return settings
  | .ok problems => throw (.settings path (.problems problems))

/-- The settings that a document gives. -/
def ofText (path document : Text) : Outcome Settings :=
  match Yaml.read document with
  | .ok value => ofValue path value
  | .error (.malformed problem) => .error (.settings path (.malformed problem))
  | .error (.failed fault) => .error (.escaped fault)

/-- The settings in a file, whose content is given if there is such a file. -/
def load (path : Text) : Option Text → Outcome Settings
  | some document => ofText path document
  | none => .error (.escaped (.noSettingsFile path))

/-- The document that keeps settings: one line or more for each of them, in order. -/
def written (settings : Settings) : Except Fault Text := Yaml.write settings.entries

/-- Whether two settings are the same. -/
def same (a b : Settings) : Bool :=
  (a.entries.zip b.entries).all fun (entry, entry') =>
    (Value.same entry.2 entry'.2).toOption.getD false

end Stencil.Settings
