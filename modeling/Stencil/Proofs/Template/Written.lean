import Mathlib.Data.List.Chain
import Stencil.Template.Token

/-!
# Templates as written tokens

Tokens are written one after another (`written`). `WellLaid` says which tokens can stand before
the end of a template that is read leniently: literal runs are filled, hold no opening parenthesis
and do not meet, parameters hold no closing one, and each token begins where what the tokens
before it write ends. `LaidFrom` says the same from a position on, along the list, as a reader
goes.
-/
namespace Stencil

/-- What tokens write, one after another. -/
def written (tokens : List Token) : Text := tokens.flatMap Token.written

/-- Whether a token may stand before the end of a template. -/
def Token.Admitted (token : Token) : Prop :=
  match token.kind with
  | .literal => token.text ≠ [] ∧ '(' ∉ token.text
  | .parameter => ')' ∉ token.text
  | .finish => False

/-- Whether a token may stand before the end can be computed. -/
instance Token.decidableAdmitted : ∀ token : Token, Decidable token.Admitted
  | ⟨.literal, text, _⟩ => inferInstanceAs (Decidable (text ≠ [] ∧ '(' ∉ text))
  | ⟨.parameter, text, _⟩ => inferInstanceAs (Decidable (')' ∉ text))
  | ⟨.finish, _, _⟩ => inferInstanceAs (Decidable False)

/-- Whether two tokens may follow one another: two literal runs would be one. -/
def Token.Apart (token next : Token) : Prop := ¬ (token.kind = .literal ∧ next.kind = .literal)

/-- Whether two tokens may follow one another can be computed. -/
instance Token.decidableApart (token next : Token) : Decidable (token.Apart next) :=
  inferInstanceAs (Decidable (¬ _))

/-- What a lenient reading gives before the end of a template. -/
structure WellLaid (tokens : List Token) : Prop where
  /-- Each token is a literal run or a parameter. -/
  admitted : ∀ token ∈ tokens, token.Admitted
  /-- No two literal runs meet. -/
  apart : tokens.IsChain Token.Apart
  /-- Each token begins where what the tokens before it write ends. -/
  placed : ∀ before token after, tokens = before ++ token :: after →
    token.position = (written before).length

/-- The tokens are well laid from a position on. -/
def LaidFrom : Nat → List Token → Prop
  | _, [] => True
  | position, token :: rest => token.Admitted ∧ token.position = position ∧
      (∀ next ∈ rest.head?, token.Apart next) ∧ LaidFrom (position + token.written.length) rest

/-- Whether tokens are well laid from a position on can be computed. -/
instance LaidFrom.decidable : ∀ position tokens, Decidable (LaidFrom position tokens)
  | _, [] => isTrue trivial
  | position, token :: rest =>
    have := LaidFrom.decidable (position + token.written.length) rest
    inferInstanceAs (Decidable (_ ∧ _ ∧ _ ∧ _))

/-- Whether a strict reading accepts the parentheses in a token's text. -/
def Token.Balanced (token : Token) : Prop :=
  match token.kind with
  | .literal => ')' ∉ token.text
  | .parameter => '(' ∉ token.text
  | .finish => True

/-- No tokens write nothing. -/
@[simp] theorem written_nil : written [] = [] := rfl

/-- The first token is written first. -/
@[simp] theorem written_cons (token : Token) (rest : List Token) :
    written (token :: rest) = token.written ++ written rest := List.flatMap_cons

/-- Tokens are written in order. -/
@[simp] theorem written_append (tokens others : List Token) :
    written (tokens ++ others) = written tokens ++ written others := List.flatMap_append

/-- Tokens well laid from a position on begin there, each behind what is written before it. -/
theorem LaidFrom.placed {position : Nat} {before after : List Token} {token : Token}
    (laid : LaidFrom position (before ++ token :: after)) :
    token.position = position + (written before).length := by
  induction before generalizing position with
  | nil => exact laid.2.1
  | cons first before ih =>
    rw [ih laid.2.2.2, written_cons, List.length_append, Nat.add_assoc]

/-- Tokens are well laid when they are so from the beginning. -/
theorem LaidFrom.wellLaid {tokens : List Token} (laid : LaidFrom 0 tokens) : WellLaid tokens := by
  suffices kept : ∀ position, LaidFrom position tokens →
      (∀ token ∈ tokens, token.Admitted) ∧ tokens.IsChain Token.Apart by
    refine ⟨(kept 0 laid).1, (kept 0 laid).2, ?_⟩
    rintro before token after rfl
    rw [laid.placed, Nat.zero_add]
  clear laid
  induction tokens with
  | nil => exact fun _ _ => ⟨fun _ member => absurd member List.not_mem_nil, .nil⟩
  | cons token rest ih =>
    rintro position ⟨admitted, -, apart, behind⟩
    obtain ⟨others, chained⟩ := ih _ behind
    exact ⟨List.forall_mem_cons.mpr ⟨admitted, others⟩, List.isChain_cons.mpr ⟨apart, chained⟩⟩

/-- Well laid tokens that follow others are well laid from where the others end. -/
theorem WellLaid.laidFrom (before : List Token) {tokens : List Token}
    (laid : WellLaid (before ++ tokens)) : LaidFrom (written before).length tokens := by
  induction tokens generalizing before with
  | nil => trivial
  | cons token rest ih =>
    have behind := ih (before ++ [token]) (by rwa [← List.append_cons])
    rw [written_append, List.length_append, written_cons, written_nil, List.append_nil] at behind
    have chained := (List.isChain_append.mp laid.apart).2.1
    exact ⟨laid.admitted token (List.mem_append_right _ List.mem_cons_self),
      laid.placed before token rest rfl, (List.isChain_cons.mp chained).1, behind⟩

/-- Whether tokens are well laid can be computed. -/
instance WellLaid.decidable (tokens : List Token) : Decidable (WellLaid tokens) :=
  decidable_of_iff (LaidFrom 0 tokens) ⟨LaidFrom.wellLaid, WellLaid.laidFrom []⟩

/-- The tokens of a literal run write the run. -/
theorem written_literalToken (start : Nat) (run : Text) :
    written (literalToken? start run).toList = run.reverse := by
  cases run with
  | nil => rfl
  | cons char run => simp [literalToken?, Token.written]

/-- A literal run before tokens that begin with no literal run is well laid. -/
theorem laidFrom_literalToken {start : Nat} {run : Text} {tokens : List Token}
    (no_open : '(' ∉ run) (laid : LaidFrom (start + run.length) tokens)
    (bounded : ∀ token ∈ tokens.head?, token.kind ≠ .literal) :
    LaidFrom start ((literalToken? start run).toList ++ tokens) := by
  cases run with
  | nil => exact laid
  | cons char run =>
    refine ⟨⟨by simp, by rwa [List.mem_reverse]⟩, rfl, fun next first both => ?_, ?_⟩
    · exact bounded next first both.2
    · simpa [Token.written] using laid

end Stencil
