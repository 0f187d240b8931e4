import Stencil.Yaml.Content
import Stencil.Value.Equality

/-!
# Nodes of a document

A document is a tree of scalars, sequences and mappings, each with a tag. `Node.value?` makes a
value of it level by level: of several reasons against it, the one nearest to the root counts, and
of those on one level the first.
-/
namespace Stencil.Yaml

/-- A node of a document. -/
inductive Node
  /-- A text. -/
  | scalar (tag : Tag) (content : Text)
  /-- Some nodes in order. -/
  | sequence (tag : Tag) (items : List Node)
  /-- Pairs of nodes in order, those that were merged into them first; and whether all that was to
  be merged could be. -/
  | mapping (tag : Tag) (entries : List (Node × Node)) (whole : Bool)

/-- Where something else is missing, there is the empty text. -/
instance : Inhabited Node := ⟨.scalar .nothing []⟩

namespace Node

/-- The tag of a node. -/
def tag : Node → Tag
  | scalar tag _ | sequence tag _ | mapping tag _ _ => tag

/-- What is merged into a mapping from a node: the entries of a mapping, or of the mappings in a
sequence, of which the last come first. -/
def mergedEntries? : Node → Option (List (Node × Node))
  | mapping _ entries whole => if whole then some entries else none
  | sequence _ items =>
    let lists := items.mapM fun item =>
      match item with
      | mapping _ entries whole => if whole then some entries else none
      | _ => none
    lists.map fun lists => lists.reverse.flatten
  | scalar .. => none

/-- A mapping of entries, with what is merged into them in front. -/
def ofEntries (tag : Tag) (entries : List (Node × Node)) : Node :=
  let isMerge := fun entry : Node × Node => entry.1.tag == .merge
  let merged? := (entries.filter isMerge).mapM fun entry => mergedEntries? entry.2
  let own := entries.filter fun entry => !isMerge entry
  mapping tag ((merged?.getD []).flatten ++ own) merged?.isSome

end Node

/-- A reason against the value of a document. -/
structure Objection where
  /-- How far from the root it lies. -/
  depth : Nat
  /-- The reason. -/
  refusal : Refusal

/-- What is made of a node, or the reason against it. -/
abbrev Judged (α : Type) := Except Objection α

namespace Judged

/-- A judgement on a level. -/
def onLevel {α : Type} (depth : Nat) (outcome : Except Refusal α) : Judged α :=
  outcome.mapError (⟨depth, ·⟩)

/-- A node that stands for no value. -/
def refused {α : Type} (depth : Nat) : Judged α := .error ⟨depth, .malformed .content⟩

/-- Two judgements at once: of two reasons the one nearer to the root counts, or the first. -/
def both {α β : Type} : Judged α → Judged β → Judged (α × β)
  | .ok a, .ok b => .ok (a, b)
  | .error a, .error b => .error (if b.depth < a.depth then b else a)
  | .error a, .ok _ => .error a
  | .ok _, .error b => .error b

end Judged

/-- Put a value for a key: a key that is there already keeps its place. -/
def putKey (key value : Value) : List (Value × Value) → List (Value × Value)
  | [] => [(key, value)]
  | (other, old) :: rest =>
    if (Value.same other key).toOption = some true then (other, value) :: rest
    else (other, old) :: putKey key value rest

/-- Entries by their keys, in the order of the first and with the values of the last. -/
def distinctEntries (entries : List (Value × Value)) : List (Value × Value) :=
  entries.foldl (fun kept (key, value) => putKey key value kept) []

/-- The value of a key. Only scalars are keys. -/
def keyValue : Node → Except Refusal Value
  | .scalar tag content => scalarValue (if tag = .representative then .text else tag) content
  | _ => .error (.malformed .content)

mutual

/-- The text that stands for a node: that of a scalar, or of the value that a mapping has for the
key of such values. -/
def Node.text? : Node → Option Text
  | .scalar _ content => some content
  | .mapping _ entries _ => textAmong? entries
  | .sequence .. => none

/-- The text of the first entry whose key is that of values which stand for a mapping. -/
def textAmong? : List (Node × Node) → Option Text
  | [] => none
  | (key, value) :: rest => if key.tag = .representative then value.text? else textAmong? rest

end

mutual

/-- The value of a node on a level. -/
def Node.valueAt (depth : Nat) : Node → Judged Value
  | .scalar tag content =>
    match tag with
    | .sequence | .mapping | .set | .pairs => .refused (depth + 1)
    | tag => .onLevel depth (scalarValue tag content)
  | .sequence tag items =>
    match tag with
    | .sequence => (itemValues (depth + 1) items).map .list
    | .pairs => (pairValues (depth + 1) items).map .list
    | .mapping | .set => .refused (depth + 1)
    | _ => .refused depth
  | .mapping tag entries whole =>
    match tag with
    | .mapping | .set =>
      if whole then
        (entryValues (depth + 1) entries).map fun entries =>
          let entries := distinctEntries entries
          if tag = .set then .set (entries.map Prod.fst) else .mapping entries
      else .refused (depth + 1)
    | .sequence | .pairs => .refused (depth + 1)
    | tag =>
      match textAmong? entries with
      | some content => .onLevel depth (scalarValue tag content)
      | none => .refused depth

/-- The values of the items of a sequence. -/
def itemValues (depth : Nat) : List Node → Judged (List Value)
  | [] => .ok []
  | item :: rest =>
    (Judged.both (item.valueAt depth) (itemValues depth rest)).map fun (item, rest) =>
      item :: rest

/-- The values of the entries of a mapping. -/
def entryValues (depth : Nat) : List (Node × Node) → Judged (List (Value × Value))
  | [] => .ok []
  | (key, value) :: rest =>
    let entry := Judged.both (.onLevel depth (keyValue key)) (value.valueAt depth)
    (entry.both (entryValues depth rest)).map fun (entry, rest) => entry :: rest

/-- The pairs of a sequence of mappings with one entry each. -/
def pairValues (depth : Nat) : List Node → Judged (List Value)
  | [] => .ok []
  | .mapping _ [(key, value)] _ :: rest =>
    let pair := (key.valueAt depth).both (value.valueAt depth)
    (pair.both (pairValues depth rest)).map fun (pair, rest) =>
      .tuple [pair.1, pair.2] :: rest
  | _ => .refused depth

end

/-- The value of a document's root. -/
def Node.value? (node : Node) : Except Refusal Value :=
  (node.valueAt 0).mapError Objection.refusal

end Stencil.Yaml
