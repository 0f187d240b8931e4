import Stencil.Yaml.Node
import Stencil.Yaml.Token.Stream

/-!
# Nodes from tokens

The tokens of a document are read as a tree of nodes. An anchor names a node for the aliases behind
it, and a node that is left out between the signs around it is empty.
-/
namespace Stencil.Yaml

/-- How far tokens have been read as nodes. -/
structure NodeReading where
  /-- The tokens that have not been read. -/
  stream : TokenStream
  /-- What the handles of tags stand for. -/
  handles : List (Text × Text)
  /-- The nodes that have been named. -/
  anchors : List (Text × Node)

/-- A step in reading tokens as nodes. -/
abbrev NodeReader := StateT NodeReading (Except Refusal)

/-- The refusal of tokens that do not form nodes. -/
def noNode {α : Type} : NodeReader α := throw (.malformed .nesting)

/-- The next token, which stays. -/
def peek : NodeReader Token := do
  let stream := (← get).stream
  match stream.tokens with
  | token :: _ => return token
  | [] => throw stream.refusal

/-- Pass the next token. -/
def skip : NodeReader Unit :=
  modify fun reading =>
    { reading with stream := { reading.stream with tokens := reading.stream.tokens.drop 1 } }

/-- What stands before the content of a node. -/
structure Properties where
  /-- The name of the node. -/
  anchor : Option Text
  /-- The tag of the node as it is written. -/
  tag : Option (Option Text × Text)

/-- Read an anchor and a tag in either order. -/
def properties : NodeReader Properties := do
  match ← peek with
  | .anchor name =>
    skip
    match ← peek with
    | .tag handle suffix =>
      skip
      return ⟨some name, some (handle, suffix)⟩
    | _ => return ⟨some name, none⟩
  | .tag handle suffix =>
    skip
    match ← peek with
    | .anchor name =>
      skip
      return ⟨some name, some (handle, suffix)⟩
    | _ => return ⟨none, some (handle, suffix)⟩
  | _ => return ⟨none, none⟩

/-- The full name of a tag, its handle replaced by what it stands for. -/
def fullName (handle : Option Text) (suffix : Text) : NodeReader Text := do
  match handle with
  | none => return suffix
  | some handle =>
    match (← get).handles.lookup handle with
    | some beginning => return beginning ++ suffix
    | none => noNode

/-- How the tag of a node is found. -/
inductive TagRule
  /-- It is not given. -/
  | missing
  /-- It is asked to be found by the content. -/
  | sought
  /-- It is given. -/
  | given (tag : Tag)

/-- How the properties of a node say its tag. -/
def tagRule (written : Option (Option Text × Text)) : NodeReader TagRule := do
  match written with
  | none => return .missing
  | some (handle, suffix) =>
    let name ← fullName handle suffix
    return if name = "!" then .sought else .given (.ofName name)

/-- The tag of a scalar: one that is not given is found by the text, unless that is quoted. -/
def TagRule.ofScalar (rule : TagRule) (plain : Bool) (content : Text) : Tag :=
  match rule with
  | .given tag => tag
  | .sought => .ofPlain content
  | .missing => if plain then .ofPlain content else .text

/-- The tag of a collection: one that is not given is the usual one. -/
def TagRule.ofCollection (rule : TagRule) (usual : Tag) : Tag :=
  match rule with
  | .given tag => tag
  | .sought | .missing => usual

/-- A name belongs to one node only. -/
def requireNewAnchor (anchor : Option Text) : NodeReader Unit := do
  match anchor with
  | some name =>
    if ((← get).anchors.lookup name).isSome then throw (.malformed .reference)
  | none => pure ()

/-- Name a node for the aliases behind it. -/
def nameNode (anchor : Option Text) (node : Node) : NodeReader Unit :=
  match anchor with
  | some name => modify fun reading => { reading with anchors := (name, node) :: reading.anchors }
  | none => pure ()

/-- A scalar, named as its properties say. -/
def namedScalar (anchor : Option Text) (tag : Tag) (content : Text) : NodeReader Node := do
  requireNewAnchor anchor
  let node := Node.scalar tag content
  nameNode anchor node
  return node

/-- A collection, named as its properties say. Within itself the name stands for an empty one. -/
def namedCollection {α : Type} (anchor : Option Text) (ofParts : List α → Node)
    (parts : NodeReader (List α)) : NodeReader Node := do
  requireNewAnchor anchor
  nameNode anchor (ofParts [])
  let node := ofParts (← parts)
  nameNode anchor node
  return node

/-- A node that is left out. -/
def emptyNode : Node := .scalar .nothing []

/-- Where a node stands, which says what it may be. -/
inductive NodePlace
  /-- Outside brackets. -/
  | block
  /-- Outside brackets as a key or a value, where a sequence need not be indented. -/
  | entry
  /-- Within brackets. -/
  | bracketed
deriving DecidableEq

/-- The node that an alias stands for. -/
def aliased (name : Text) : NodeReader Node := do
  match (← get).anchors.lookup name with
  | some node => return node
  | none => throw (.malformed .reference)

mutual

/-- Read a node. -/
def node (place : NodePlace) : Nat → NodeReader Node
  | 0 => noNode
  | fuel + 1 => do
    match ← peek with
    | .alias name =>
      skip
      aliased name
    | _ =>
      let ⟨anchor, written⟩ ← properties
      let rule ← tagRule written
      let sequence := .sequence (rule.ofCollection .sequence)
      let mapping := .ofEntries (rule.ofCollection .mapping)
      match ← peek, place with
      | .entry, .entry => namedCollection anchor sequence (looseItems fuel)
      | .scalar plain content, _ =>
        skip
        namedScalar anchor (rule.ofScalar plain content) content
      | .openSequence, _ =>
        skip
        namedCollection anchor sequence (bracketedItems true fuel)
      | .openMapping, _ =>
        skip
        namedCollection anchor mapping (bracketedEntries true fuel)
      | .sequenceStart, .block | .sequenceStart, .entry =>
        skip
        namedCollection anchor sequence (blockItems fuel)
      | .mappingStart, .block | .mappingStart, .entry =>
        skip
        namedCollection anchor mapping (blockEntries fuel)
      | _, _ =>
        if anchor.isSome || written.isSome then namedScalar anchor (rule.ofScalar true []) []
        else noNode

/-- Read the items of an indented sequence up to its end. -/
def blockItems : Nat → NodeReader (List Node)
  | 0 => noNode
  | fuel + 1 => do
    match ← peek with
    | .entry =>
      skip
      let item ← match ← peek with
        | .entry | .blockEnd => pure emptyNode
        | _ => node .block fuel
      return item :: (← blockItems fuel)
    | .blockEnd =>
      skip
      return []
    | _ => noNode

/-- Read the items of a sequence that is not indented. -/
def looseItems : Nat → NodeReader (List Node)
  | 0 => noNode
  | fuel + 1 => do
    match ← peek with
    | .entry =>
      skip
      let item ← match ← peek with
        | .entry | .key | .value | .blockEnd => pure emptyNode
        | _ => node .block fuel
      return item :: (← looseItems fuel)
    | _ => return []

/-- Read the key or the value behind its sign, if it is not left out. -/
def blockPart : Nat → NodeReader Node
  | 0 => noNode
  | fuel + 1 => do
    skip
    match ← peek with
    | .key | .value | .blockEnd => return emptyNode
    | _ => node .entry fuel

/-- Read the entries of an indented mapping up to its end. -/
def blockEntries : Nat → NodeReader (List (Node × Node))
  | 0 => noNode
  | fuel + 1 => do
    match ← peek with
    | .key =>
      let key ← blockPart fuel
      let value ← blockValue fuel
      return (key, value) :: (← blockEntries fuel)
    | .blockEnd =>
      skip
      return []
    | _ => noNode

/-- Read the value behind a key, if there is one. -/
def blockValue : Nat → NodeReader Node
  | 0 => noNode
  | fuel + 1 => do
    match ← peek with
    | .value => blockPart fuel
    | _ => return emptyNode

/-- Read the items in brackets up to the closing one; a key makes an item a mapping of one entry. -/
def bracketedItems (first : Bool) : Nat → NodeReader (List Node)
  | 0 => noNode
  | fuel + 1 => do
    if (← peek) = .closeSequence then
      skip
      return []
    else
      if !first then requireComma
      match ← peek with
      | .key =>
        skip
        let key ← match ← peek with
          | .value | .comma | .closeSequence => pure emptyNode
          | _ => node .bracketed fuel
        let value ← bracketedValue .closeSequence fuel
        let item := Node.ofEntries .mapping [(key, value)]
        return item :: (← bracketedItems false fuel)
      | .closeSequence =>
        skip
        return []
      | _ =>
        let item ← node .bracketed fuel
        return item :: (← bracketedItems false fuel)

/-- Pass the comma between items. -/
def requireComma : NodeReader Unit := do
  if (← peek) = .comma then skip else noNode

/-- Read the value behind a key in brackets, if there is one before the closing bracket. -/
def bracketedValue (closing : Token) : Nat → NodeReader Node
  | 0 => noNode
  | fuel + 1 => do
    if (← peek) = .value then
      skip
      let token ← peek
      if token = .comma || token = closing then return emptyNode else node .bracketed fuel
    else return emptyNode

/-- Read the entries in braces up to the closing one; a node without a sign is a key. -/
def bracketedEntries (first : Bool) : Nat → NodeReader (List (Node × Node))
  | 0 => noNode
  | fuel + 1 => do
    if (← peek) = .closeMapping then
      skip
      return []
    else
      if !first then requireComma
      match ← peek with
      | .key =>
        skip
        let key ← match ← peek with
          | .value | .comma | .closeMapping => pure emptyNode
          | _ => node .bracketed fuel
        let value ← bracketedValue .closeMapping fuel
        return (key, value) :: (← bracketedEntries false fuel)
      | .closeMapping =>
        skip
        return []
      | _ =>
        let key ← node .bracketed fuel
        return (key, emptyNode) :: (← bracketedEntries false fuel)

end

end Stencil.Yaml
