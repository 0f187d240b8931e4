import Mathlib.Data.List.Lex
import Stencil.Template.Pattern

/-!
# Fillings

A filling of segments gives each place a text; `fill?` is the text that the filled segments spell.
Of the fillings that spell a text, `Nearest` singles out the one whose places end as early as they
can: no place could end earlier and still leave a rest that the segments after it spell. It is the
filling whose lengths come first in lexicographic order (`Nearest.lengths_le`), and fillings of
one text are told apart by their lengths (`eq_of_lengths_eq`).
-/
namespace Stencil

/-- A literal is no place. -/
@[simp] theorem parameterTokens_literal (needle : Text) (rest : List Segment) :
    parameterTokens (.literal needle :: rest) = parameterTokens rest := rfl

/-- A parameter is a place, named by its token. -/
@[simp] theorem parameterTokens_parameter (token : Text) (rest : List Segment) :
    parameterTokens (.parameter token :: rest) = token :: parameterTokens rest := rfl

/-- The text of segments with their places filled in order, one text for each place. -/
def fill? : List Segment → List Text → Option Text
  | [], [] => some []
  | [], _ :: _ => none
  | .literal needle :: rest, values => (fill? rest values).map (needle ++ ·)
  | .parameter _ :: _, [] => none
  | .parameter _ :: rest, value :: values => (fill? rest values).map (value ++ ·)

/-- No filling of the segments spells the text. -/
def Unfillable (segments : List Segment) (text : Text) : Prop :=
  ∀ values, fill? segments values ≠ some text

/-- A filling in which each place ends as early as possible: from no earlier position can the
segments after the place spell the rest of the text. -/
inductive Nearest : List Segment → Text → List Text → Prop
  /-- Without segments there is nothing to fill. -/
  | done : Nearest [] [] []
  /-- A literal stands for itself. -/
  | literal {needle tail : Text} {rest : List Segment} {values : List Text}
      (following : Nearest rest tail values) :
      Nearest (.literal needle :: rest) (needle ++ tail) values
  /-- A place takes no more than it must. -/
  | parameter {token value tail : Text} {rest : List Segment} {values : List Text}
      (early : ∀ shorter < value.length, Unfillable rest ((value ++ tail).drop shorter))
      (following : Nearest rest tail values) :
      Nearest (.parameter token :: rest) (value ++ tail) (value :: values)

/-- What is spelled from a literal on begins with the literal. -/
theorem fill?_literal_eq_some {needle text : Text} {rest : List Segment} {values : List Text} :
    fill? (.literal needle :: rest) values = some text ↔
      ∃ tail, fill? rest values = some tail ∧ needle ++ tail = text := by
  rw [fill?, Option.map_eq_some_iff]

/-- What is spelled from a place on begins with the text that fills the place. -/
theorem fill?_parameter_eq_some {token text : Text} {rest : List Segment} {values : List Text} :
    fill? (.parameter token :: rest) values = some text ↔
      ∃ value others tail, values = value :: others ∧ fill? rest others = some tail ∧
        value ++ tail = text := by
  cases values with
  | nil => simp [fill?]
  | cons value others =>
    rw [fill?, Option.map_eq_some_iff]
    constructor
    · rintro ⟨tail, spelled, joined⟩
      exact ⟨value, others, tail, rfl, spelled, joined⟩
    · rintro ⟨value', others', tail, same, spelled, joined⟩
      obtain ⟨rfl, rfl⟩ := List.cons.inj same
      exact ⟨tail, spelled, joined⟩

/-- Segments one after another spell what they spell one after another. -/
theorem fill?_append {front back : List Segment} {values others : List Text} {text tail : Text}
    (before : fill? front values = some text) (after : fill? back others = some tail) :
    fill? (front ++ back) (values ++ others) = some (text ++ tail) := by
  induction front generalizing values text with
  | nil =>
    cases values with
    | nil =>
      obtain rfl := Option.some.inj before
      exact after
    | cons value values => contradiction
  | cons segment rest ih =>
    cases segment with
    | literal needle =>
      obtain ⟨text, spelled, rfl⟩ := fill?_literal_eq_some.mp before
      rw [List.append_assoc]
      exact fill?_literal_eq_some.mpr ⟨_, ih spelled, rfl⟩
    | parameter token =>
      obtain ⟨value, values, text, rfl, spelled, rfl⟩ := fill?_parameter_eq_some.mp before
      rw [List.append_assoc]
      exact fill?_parameter_eq_some.mpr ⟨_, _, _, rfl, ih spelled, rfl⟩

/-- A filling has as many texts as the segments have places. -/
theorem length_of_fill? {segments : List Segment} {values : List Text} {text : Text}
    (filled : fill? segments values = some text) :
    values.length = (parameterTokens segments).length := by
  induction segments generalizing values text with
  | nil =>
    cases values with
    | nil => rfl
    | cons value others => simp [fill?] at filled
  | cons segment rest ih =>
    cases segment with
    | literal needle =>
      obtain ⟨tail, spelled, -⟩ := fill?_literal_eq_some.mp filled
      exact ih spelled
    | parameter token =>
      obtain ⟨value, others, tail, rfl, spelled, -⟩ := fill?_parameter_eq_some.mp filled
      simpa using ih spelled

/-- Two fillings that spell one text and have the same lengths are the same filling. -/
theorem eq_of_lengths_eq {segments : List Segment} {text : Text} {values others : List Text}
    (left : fill? segments values = some text) (right : fill? segments others = some text)
    (same : values.map List.length = others.map List.length) : values = others := by
  induction segments generalizing text values others with
  | nil =>
    cases values <;> cases others <;> simp_all [fill?]
  | cons segment rest ih =>
    cases segment with
    | literal needle =>
      obtain ⟨tail, spelled, rfl⟩ := fill?_literal_eq_some.mp left
      obtain ⟨tail', spelled', joined⟩ := fill?_literal_eq_some.mp right
      obtain rfl := List.append_cancel_left joined
      exact ih spelled spelled' same
    | parameter token =>
      obtain ⟨value, values, tail, rfl, spelled, rfl⟩ := fill?_parameter_eq_some.mp left
      obtain ⟨value', others, tail', rfl, spelled', joined⟩ := fill?_parameter_eq_some.mp right
      simp only [List.map_cons, List.cons.injEq] at same
      obtain ⟨rfl, rfl⟩ := List.append_inj joined same.1.symm
      rw [ih spelled spelled' same.2]

namespace Nearest

variable {segments : List Segment} {text : Text} {values : List Text}

/-- The nearest filling spells the text. -/
theorem fills (nearest : Nearest segments text values) : fill? segments values = some text := by
  induction nearest with
  | done => rfl
  | literal following ih => rw [fill?, ih, Option.map_some]
  | parameter early following ih => rw [fill?, ih, Option.map_some]

/-- The lengths of the nearest filling come first among those of all fillings: the first place is
as short as it can be, then the second, and so on. -/
theorem lengths_le (nearest : Nearest segments text values) {others : List Text}
    (filled : fill? segments others = some text) :
    values.map List.length ≤ others.map List.length := by
  induction nearest generalizing others with
  | done =>
    cases others with
    | nil => exact le_refl _
    | cons other others => simp [fill?] at filled
  | literal following ih =>
    obtain ⟨tail, spelled, joined⟩ := fill?_literal_eq_some.mp filled
    obtain rfl := List.append_cancel_left joined
    exact ih spelled
  | @parameter token value tail rest values early following ih =>
    obtain ⟨other, others, tail', rfl, spelled, joined⟩ := fill?_parameter_eq_some.mp filled
    rcases Nat.lt_trichotomy value.length other.length with longer | equal | shorter
    · exact le_of_lt (List.Lex.rel longer)
    · obtain ⟨rfl, rfl⟩ := List.append_inj joined equal.symm
      exact List.cons_le_cons _ (ih spelled)
    · -- A shorter place would leave a rest that can be spelled after all.
      have rest_eq : (value ++ tail).drop other.length = tail' := by
        rw [← joined, List.drop_left]
      exact absurd spelled (rest_eq ▸ early _ shorter others)

end Nearest
end Stencil
