import Stencil.Settings.Basic

/-!
# Logging

Messages have a level, and those below the level that settings name are not logged.
-/
namespace Stencil

/-- The level of a message, or the least level of those that are logged. -/
inductive Level
  /-- All messages. -/
  | unset
  /-- What is done, step by step. -/
  | debug
  /-- What is done. -/
  | info
  /-- What may be wrong. -/
  | warning
  /-- What is wrong. -/
  | error
  /-- What makes it impossible to go on. -/
  | critical
deriving DecidableEq, Repr

namespace Level

/-- The word for a level. -/
def word : Level → Text
  | unset => "NOTSET"
  | debug => "DEBUG"
  | info => "INFO"
  | warning => "WARNING"
  | error => "ERROR"
  | critical => "CRITICAL"

/-- The place of a level among the others. -/
def rank : Level → Nat
  | unset => 0
  | debug => 10
  | info => 20
  | warning => 30
  | error => 40
  | critical => 50

/-- The names of levels; two levels have a second one. -/
def table : List (Text × Level) :=
  ("WARN", warning) :: ("FATAL", critical) ::
    [unset, debug, info, warning, error, critical].map fun level => (level.word, level)

/-- The level of a name in capitals. A name that belongs to something else than a level gives a
wording that is no level. -/
def ofName (name : Text) : Except Fault Level :=
  match table.lookup name with
  | some level => .ok level
  | none =>
    if name = "BASIC_FORMAT" then
      .error (.unknownLevel (Text.quoted "%(levelname)s:%(name)s:%(message)s"))
    else .error (.noLevel name)

end Level

/-- The least level of messages that are logged under settings, or when asked for all of them. -/
def Settings.level (settings : Settings) (verbose : Bool) : Except Fault Level := do
  if verbose then return .debug
  else
    match ← Settings.inCapitals settings.logLevel with
    | .text name => Level.ofName name
    | value => .error (.attributeName (Settings.typeName value))

/-- A message that may be logged. -/
structure Record where
  /-- Its level. -/
  level : Level
  /-- Its wording. -/
  message : Text
deriving DecidableEq, Repr

/-- The messages about reading a template under settings: what is missing, and what it was read
as. -/
def Settings.records (settings : Settings) (template : Text) : List Record :=
  let warnings := (settings.warnings template).map fun message => ⟨.warning, message⟩
  match settings.compile template with
  | .ok pattern =>
    let parameters := natText pattern.parameterCount ++ " parameter(s)"
    warnings ++
      [⟨.debug, "Compiled " ++ Text.quoted template ++ ": " ++ pattern.direction.word ++
        " pattern with " ++ parameters⟩]
  | .error _ => warnings

end Stencil
