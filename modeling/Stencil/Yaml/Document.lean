import Stencil.Yaml.Node.Reader

/-!
# Documents

A text holds at most one document, with or without marks around it and lines for its reader.
`Yaml.read` is the value of that document; where there is none, it is the absent value.
-/
namespace Stencil.Yaml

/-- The handles of tags that need no directive. -/
def usualHandles : List (Text × Text) := [("!", "!"), ("!!", tagSpace)]

/-- Read the lines before a document: the version, which must be of the first kind, and handles;
neither is given twice. -/
def directives (versioned : Bool) (handles : List (Text × Text)) :
    Nat → NodeReader (List (Text × Text))
  | 0 => noNode
  | fuel + 1 => do
    match ← peek with
    | .directive (.version major) =>
      skip
      if versioned || major ≠ 1 then noNode else directives true handles fuel
    | .directive (.handle name beginning) =>
      skip
      if (handles.lookup name).isSome then noNode
      else directives versioned ((name, beginning) :: handles) fuel
    | .directive .other =>
      skip
      directives versioned handles fuel
    | _ => return handles

/-- Pass the marks behind a document. -/
def skipEnds : Nat → NodeReader Unit
  | 0 => noNode
  | fuel + 1 => do
    match ← peek with
    | .documentEnd =>
      skip
      skipEnds fuel
    | _ => pure ()

/-- Read the lines and the mark before a document, which must be there. -/
def documentStart (fuel : Nat) : NodeReader Unit := do
  let handles ← directives false [] fuel
  if (← peek) = .documentStart then
    skip
    modify fun reading => { reading with handles := handles ++ usualHandles }
  else noNode

/-- Read the node of a document behind its mark; it may be left out. -/
def markedNode (fuel : Nat) : NodeReader Node := do
  match ← peek with
  | .directive _ | .documentStart | .documentEnd | .finish => return emptyNode
  | _ => node .block fuel

/-- Read the node of the only document, if there is one. -/
def root (fuel : Nat) : NodeReader (Option Node) := do
  match ← peek with
  | .finish => return none
  | .directive _ | .documentStart =>
    documentStart fuel
    some <$> markedNode fuel
  | _ => some <$> node .block fuel

/-- No second document follows. -/
def finish (fuel : Nat) : NodeReader Unit := do
  skipEnds fuel
  if (← peek) ≠ .finish then
    documentStart fuel
    throw (.malformed .reference)

/-- Read the only document and what is behind it. -/
def document (fuel : Nat) : NodeReader (Option Node) := do
  let root ← root fuel
  finish fuel
  return root

/-- The node of the only document in a text, if there is one. Each call passes a token or is one of
three in a row for one. -/
def nodeOf (text : Text) : Except Refusal (Option Node) :=
  let stream := TokenStream.of text
  (document (3 * stream.tokens.length + 3)).run' ⟨stream, usualHandles, []⟩

/-- The value of the only document in a text. -/
def read (text : Text) : Except Refusal Value := do
  let text := unifyBreaks text
  if text.all isPermitted then
    match ← nodeOf text with
    | some node => node.value?
    | none => return .nothing
  else throw (.malformed .character)

end Stencil.Yaml
