import Stencil.Text.Basic

/-!
# Likeness of texts

How much two texts have in common: the longest block that both hold, and what they have in common
before it and behind it. Texts are alike if the characters of these blocks are at least three tenths
of all characters.
-/
namespace Stencil.Text

/-- The number of characters with which both texts begin. -/
def commonStart : Text → Text → Nat
  | a :: as, b :: bs => if a = b then commonStart as bs + 1 else 0
  | _, _ => 0

/-- A block of characters that stands in two texts. -/
structure SharedBlock where
  /-- The number of characters before it in the first text. -/
  left : Nat
  /-- The number of characters before it in the second text. -/
  right : Nat
  /-- The number of its characters. -/
  length : Nat

/-- The blocks that two texts share, in the order of their places in the first text and then in
the second. -/
def sharedBlocks (left right : Text) : List SharedBlock :=
  (List.range left.length).flatMap fun i =>
    (List.range right.length).map fun j => ⟨i, j, commonStart (left.drop i) (right.drop j)⟩

/-- The longest block that two texts share, the first of several. -/
def longestBlock (left right : Text) : SharedBlock :=
  (sharedBlocks left right).foldl
    (fun best block => if best.length < block.length then block else best) ⟨0, 0, 0⟩

/-- The number of characters in the longest shared block and in what is shared on either side of
it; `size` bounds the blocks that are taken one inside the other. -/
def sharedWithin : Nat → Text → Text → Nat
  | 0, _, _ => 0
  | size + 1, left, right =>
    let block := longestBlock left right
    if block.length = 0 then 0
    else
      sharedWithin size (left.take block.left) (right.take block.right) + block.length +
        sharedWithin size (left.drop (block.left + block.length))
          (right.drop (block.right + block.length))

/-- The number of characters that two texts have in common: each block takes a character of the
first text, whose length therefore bounds them. -/
def shared (left right : Text) : Nat := sharedWithin left.length left right

/-- Whether two texts are alike. -/
def isLike (left right : Text) : Bool :=
  3 * (left.length + right.length) ≤ 10 * shared left right

/-- Insert a text into texts that stand in order. -/
def insertInOrder (text : Text) : List Text → List Text
  | [] => [text]
  | next :: rest =>
    if before next text then next :: insertInOrder text rest else text :: next :: rest

/-- The texts that are like a text, in order. -/
def alike (text : Text) (texts : List Text) : List Text :=
  (texts.filter fun other => isLike other text).foldr insertInOrder []

end Stencil.Text
