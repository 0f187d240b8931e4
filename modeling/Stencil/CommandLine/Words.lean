import Stencil.Text.Likeness
import Stencil.Text.Quoted

/-!
# Words of a command line

A command line is a list of words: options, which begin with a dash and may take the next word, and
arguments. `readWords` tells them apart by the options that there are.
-/
namespace Stencil.CommandLine

/-- Why a command line is not understood. -/
inductive UsageFault
  /-- There are no words at all. -/
  | noWords
  /-- There is no option of a name, but there may be some of similar names. -/
  | noSuchOption (name : Text) (similar : List Text)
  /-- An option lacks its value. -/
  | needsValue (name : Text)
  /-- An option is given a value but takes none. -/
  | takesNoValue (name : Text)
  /-- An argument is missing. -/
  | missingArgument (name : Text)
  /-- There are more arguments than are taken. -/
  | extraArguments (words : List Text)
  /-- There is no file at the path that an option gives. -/
  | noFile (name path : Text)
  /-- There is a directory at the path that an option gives. -/
  | notFile (name path : Text)
  /-- A value of an option does not say what is set to what. -/
  | notAssignment (word : Text)
  /-- There is no command. -/
  | missingCommand
  /-- There is no command of a name, but there may be some of similar names. -/
  | noSuchCommand (name : Text) (similar : List Text)
deriving DecidableEq, Repr

/-- The question whether another name was meant. -/
def suggestion : List Text → Text
  | [] => []
  | [name] => " Did you mean " ++ Text.quoted name ++ "?"
  | names => " (Did you mean one of: " ++ Text.join ", " (names.map Text.quoted) ++ "?)"

/-- The wording of a fault. -/
def UsageFault.message : UsageFault → Text
  | noWords => "No command is given."
  | noSuchOption name similar =>
    "No such option " ++ Text.quoted name ++ "." ++ suggestion similar
  | needsValue name => "Option '" ++ name ++ "' requires an argument."
  | takesNoValue name => "Option '" ++ name ++ "' does not take a value."
  | missingArgument name => "Missing argument '" ++ name ++ "'."
  | extraArguments words =>
    "Got unexpected extra argument" ++ (if words.length = 1 then [] else ['s']) ++ " (" ++
      Text.join " " words ++ ")"
  | noFile name path =>
    "Invalid value for '" ++ name ++ "': File " ++ Text.quoted path ++ " does not exist."
  | notFile name path =>
    "Invalid value for '" ++ name ++ "': File " ++ Text.quoted path ++ " is a directory."
  | notAssignment word =>
    "Invalid value for --set: expected KEY=VALUE, got '" ++ word ++ "'"
  | missingCommand => "Missing command."
  | noSuchCommand name similar =>
    "No such command " ++ Text.quoted name ++ "." ++ suggestion similar

/-- An option that there is. -/
structure OptionForm where
  /-- Its name, with two dashes. -/
  name : Text
  /-- Whether it takes the next word. -/
  takesValue : Bool

/-- What a command line says. -/
structure Words where
  /-- The options in order; one that takes no value has the empty one. -/
  options : List (Text × Text)
  /-- The arguments in order. -/
  arguments : List Text

namespace Words

/-- One more option in front. -/
def withOption (name value : Text) (words : Words) : Words :=
  { words with options := (name, value) :: words.options }

/-- One more argument in front. -/
def withArgument (word : Text) (words : Words) : Words :=
  { words with arguments := word :: words.arguments }

/-- The values that an option is given, in order. -/
def values (words : Words) (name : Text) : List Text :=
  (words.options.filter fun option => option.1 = name).map Prod.snd

/-- The value that an option is given last. -/
def value? (words : Words) (name : Text) : Option Text := (words.values name).getLast?

/-- Whether an option is given. -/
def has (words : Words) (name : Text) : Bool := (words.value? name).isSome

end Words

/-- Whether a word is an option: a dash alone is none. -/
def isOption (word : Text) : Bool := word.startsWith "-" && word ≠ ['-']

/-- The name in an option and the value behind its equals sign. -/
def optionParts (word : Text) : Text × Option Text := Text.cutAt '=' word

/-- What is wrong with an option that there is not: of one with a single dash only the first letter
is looked at, and nothing is similar to it. -/
def unknownOption (forms : List OptionForm) (word : Text) : UsageFault :=
  if word.startsWith "--" then
    let name := (optionParts word).1
    .noSuchOption name (Text.alike name (forms.map OptionForm.name))
  else .noSuchOption (word.take 2) []

/-- Read words by the options that there are. Two dashes alone end the options; where arguments
are not mixed with options, the first argument does too. -/
def readWords (forms : List OptionForm) (mixed : Bool) : List Text → Except UsageFault Words
  | [] => .ok ⟨[], []⟩
  | word :: rest =>
    if word = "--" then .ok ⟨[], rest⟩
    else if isOption word then
      let (name, value?) := optionParts word
      match forms.find? fun form => form.name = name with
      | none => .error (unknownOption forms word)
      | some ⟨name, true⟩ =>
        match value?, rest with
        | some value, rest => (readWords forms mixed rest).map (Words.withOption name value)
        | none, value :: rest => (readWords forms mixed rest).map (Words.withOption name value)
        | none, [] => .error (.needsValue name)
      | some ⟨name, false⟩ =>
        match value? with
        | some _ => .error (.takesNoValue name)
        | none => (readWords forms mixed rest).map (Words.withOption name [])
    else if mixed then (readWords forms mixed rest).map (Words.withArgument word)
    else .ok ⟨[], word :: rest⟩

/-- The arguments by the names of those that are taken, of which none may be missing. -/
def namedArguments (names : List Text) (arguments : List Text) : Except UsageFault (List Text) :=
  match names.drop arguments.length with
  | name :: _ => .error (.missingArgument name)
  | [] =>
    match arguments.drop names.length with
    | [] => .ok arguments
    | extra => .error (.extraArguments extra)

end Stencil.CommandLine
