import Mathlib.Data.List.Basic
import Stencil.Text.Basic

/-!
# Parentheses in pairs

A text is `Paired` when its parentheses are an opening one, a closing one, and so on, each closed
before the next is opened. Read from the left, a text is paired or, inside a pair, `PairedInside`,
and each character leads from one to the other or rules both out. `Unclosed` texts have an opening
parenthesis that no closing one follows.
-/
namespace Stencil

/-- Whether a character is a parenthesis. -/
def isParenthesis (char : Char) : Bool := char = '(' || char = ')'

/-- The parentheses of a text, in order. -/
def parentheses (text : Text) : Text := text.filter isParenthesis

/-- An opening and a closing parenthesis, so many times. -/
def pairs (count : Nat) : Text := (List.replicate count ['(', ')']).flatten

/-- The parentheses of the text come in pairs. -/
def Paired (text : Text) : Prop := ∃ count, parentheses text = pairs count

/-- The parentheses of the text close a pair, and more pairs follow. -/
def PairedInside (text : Text) : Prop := ∃ count, parentheses text = ')' :: pairs count

/-- An opening parenthesis of the text is followed by no closing one. -/
def Unclosed (text : Text) : Prop := ∃ before rest, text = before ++ '(' :: rest ∧ ')' ∉ rest

/-- One pair more stands in front of the others. -/
theorem pairs_succ (count : Nat) : pairs (count + 1) = '(' :: ')' :: pairs count := by
  rw [pairs, List.replicate_succ, List.flatten_cons]
  rfl

/-- Pairs follow one another. -/
theorem pairs_append (count more : Nat) : pairs count ++ pairs more = pairs (count + more) := by
  rw [pairs, pairs, pairs, ← List.flatten_append, List.replicate_append_replicate]

/-- Pairs do not begin with a closing parenthesis. -/
theorem pairs_ne_close (count : Nat) (text : Text) : pairs count ≠ ')' :: text := by
  cases count with
  | zero => exact (List.cons_ne_nil _ _).symm
  | succ count => simp [pairs_succ]

/-- The parentheses of texts one after another. -/
theorem parentheses_append (text rest : Text) :
    parentheses (text ++ rest) = parentheses text ++ parentheses rest := List.filter_append ..

/-- A text that holds none has no parentheses. -/
theorem parentheses_eq_nil {text : Text} (no_open : '(' ∉ text) (no_close : ')' ∉ text) :
    parentheses text = [] := by
  rw [parentheses, List.filter_eq_nil_iff]
  intro char member parenthesis
  rcases Bool.or_eq_true_iff.mp parenthesis with opens | closes
  · exact no_open (of_decide_eq_true opens ▸ member)
  · exact no_close (of_decide_eq_true closes ▸ member)

section Characters

variable {char : Char} {text rest : Text}

/-- The empty text is paired. -/
theorem paired_nil : Paired [] := ⟨0, rfl⟩

/-- A pair is not closed at the end of a text. -/
theorem not_pairedInside_nil : ¬ PairedInside [] := by
  rintro ⟨count, same⟩
  exact List.cons_ne_nil _ _ same.symm

/-- An opening parenthesis leads inside a pair. -/
theorem paired_open : Paired ('(' :: rest) ↔ PairedInside rest := by
  have first : parentheses ('(' :: rest) = '(' :: parentheses rest := rfl
  constructor
  · rintro ⟨count, same⟩
    rw [first] at same
    cases count with
    | zero => exact absurd same (List.cons_ne_nil _ _)
    | succ count =>
      rw [pairs_succ] at same
      exact ⟨count, List.tail_eq_of_cons_eq same⟩
  · rintro ⟨count, same⟩
    exact ⟨count + 1, by rw [first, same, pairs_succ]⟩

/-- No closing parenthesis stands outside all pairs. -/
theorem not_paired_close : ¬ Paired (')' :: rest) := by
  rintro ⟨count, same⟩
  exact pairs_ne_close count _ same.symm

/-- A closing parenthesis leads out of a pair. -/
theorem pairedInside_close : PairedInside (')' :: rest) ↔ Paired rest :=
  exists_congr fun _ => List.cons_inj_right ')'

/-- No opening parenthesis stands inside a pair. -/
theorem not_pairedInside_open : ¬ PairedInside ('(' :: rest) := by
  rintro ⟨count, same⟩
  have first : parentheses ('(' :: rest) = '(' :: parentheses rest := rfl
  rw [first] at same
  simp at same

/-- The parentheses of a text are those behind another character. -/
theorem parentheses_plain (no_open : char ≠ '(') (no_close : char ≠ ')') :
    parentheses (char :: rest) = parentheses rest := by
  have plain : ¬ isParenthesis char = true := by simp [isParenthesis, no_open, no_close]
  exact List.filter_cons_of_neg plain

/-- Other characters do not matter to a paired text. -/
theorem paired_plain (no_open : char ≠ '(') (no_close : char ≠ ')') :
    Paired (char :: rest) ↔ Paired rest := by
  rw [Paired, parentheses_plain no_open no_close]
  exact Iff.rfl

/-- Other characters do not matter inside a pair. -/
theorem pairedInside_plain (no_open : char ≠ '(') (no_close : char ≠ ')') :
    PairedInside (char :: rest) ↔ PairedInside rest := by
  rw [PairedInside, parentheses_plain no_open no_close]
  exact Iff.rfl

/-- Paired texts follow one another. -/
theorem Paired.append (paired : Paired text) (others : Paired rest) : Paired (text ++ rest) := by
  obtain ⟨count, same⟩ := paired
  obtain ⟨more, same'⟩ := others
  exact ⟨count + more, by rw [parentheses_append, same, same', pairs_append]⟩

/-- A text that holds no parentheses is paired. -/
theorem paired_of_plain (no_open : '(' ∉ text) (no_close : ')' ∉ text) : Paired text :=
  ⟨0, parentheses_eq_nil no_open no_close⟩

/-- A text that holds no parentheses is paired between two of them. -/
theorem paired_parenthesized (no_open : '(' ∉ text) (no_close : ')' ∉ text) :
    Paired ('(' :: text ++ [')']) := by
  refine ⟨1, ?_⟩
  have first : parentheses ('(' :: text ++ [')']) = '(' :: parentheses (text ++ [')']) := rfl
  rw [first, parentheses_append, parentheses_eq_nil no_open no_close]
  rfl

/-- No parenthesis of the empty text is unclosed. -/
theorem not_unclosed_nil : ¬ Unclosed [] := by
  rintro ⟨before, rest, same, -⟩
  simp at same

/-- A parenthesis is unclosed that no closing one follows, or one behind it is. -/
theorem unclosed_cons : Unclosed (char :: rest) ↔ char = '(' ∧ ')' ∉ rest ∨ Unclosed rest := by
  constructor
  · rintro ⟨before, after, same, unclosed⟩
    cases before with
    | nil =>
      obtain ⟨rfl, rfl⟩ := List.cons_eq_cons.mp same
      exact .inl ⟨rfl, unclosed⟩
    | cons first before =>
      obtain ⟨rfl, rfl⟩ := List.cons_eq_cons.mp same
      exact .inr ⟨before, after, rfl, unclosed⟩
  · rintro (⟨rfl, unclosed⟩ | ⟨before, after, rfl, unclosed⟩)
    · exact ⟨[], rest, rfl, unclosed⟩
    · exact ⟨char :: before, after, rfl, unclosed⟩

end Characters
end Stencil
