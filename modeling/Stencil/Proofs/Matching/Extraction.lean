import Stencil.Proofs.Matching.Bound

/-!
# What matching finds

Matching finds the nearest filling of the segments that spells the text, and nothing only when no
filling spells it (`matchSegments_eq_some_iff`, `matchSegments_eq_none_iff`).
`matchSegments_lexicographic` says the same without the relation `Nearest`: of all fillings,
matching finds the one whose lengths come first in lexicographic order.
-/
namespace Stencil

/-- A search has the fuel that it needs. -/
theorem matchSegments_nearest (segments : List Segment) (text : Text) :
    match matchSegments segments text with
    | some values => Nearest segments text values
    | none => Unfillable segments text := by
  have found := search_nearest Walk.Sound.start (card_pending_start text segments)
  rw [matchSegments]
  cases searched : search text segments
      (searchBound (parameterTokens segments).length text.length) 0 0 .start with
  | none =>
    rw [searched] at found
    exact found
  | some choices =>
    rw [searched] at found
    exact found

variable {segments : List Segment} {text : Text} {values : List Text}

/-- Matching finds nothing exactly when no filling spells the text. -/
theorem matchSegments_eq_none_iff :
    matchSegments segments text = none ↔ Unfillable segments text := by
  have found := matchSegments_nearest segments text
  cases matched : matchSegments segments text with
  | none =>
    rw [matched] at found
    exact iff_of_true rfl found
  | some values =>
    rw [matched] at found
    exact iff_of_false (Option.some_ne_none _) fun unfillable => unfillable values found.fills

/-- A filling of which the lengths come first is the nearest one. -/
theorem nearest_of_lengths_le (filled : fill? segments values = some text)
    (least : ∀ others, fill? segments others = some text →
      values.map List.length ≤ others.map List.length) : Nearest segments text values := by
  have found := matchSegments_nearest segments text
  cases matched : matchSegments segments text with
  | none =>
    rw [matched] at found
    exact absurd filled (found values)
  | some others =>
    rw [matched] at found
    have same := le_antisymm (least others found.fills) (found.lengths_le filled)
    rwa [eq_of_lengths_eq filled found.fills same]

/-- Matching finds exactly the nearest filling. -/
theorem matchSegments_eq_some_iff :
    matchSegments segments text = some values ↔ Nearest segments text values := by
  have found := matchSegments_nearest segments text
  cases matched : matchSegments segments text with
  | none =>
    rw [matched] at found
    exact iff_of_false (Option.some_ne_none _).symm fun nearest => found values nearest.fills
  | some others =>
    rw [matched] at found
    rw [Option.some_inj]
    constructor
    · rintro rfl
      exact found
    · intro nearest
      have same := le_antisymm (found.lengths_le nearest.fills) (nearest.lengths_le found.fills)
      exact eq_of_lengths_eq found.fills nearest.fills same

/-- A parameter that stands alone takes the whole text. -/
theorem matchSegments_alone (token text : Text) :
    matchSegments [.parameter token] text = some [text] := by
  have early : ∀ shorter < text.length, Unfillable [] ((text ++ []).drop shorter) := by
    intro shorter fewer values filled
    cases values with
    | nil =>
      have nothing := congrArg List.length (Option.some.inj filled)
      rw [List.length_nil, List.append_nil, List.length_drop] at nothing
      omega
    | cons value values => contradiction
  have nearest : Nearest [.parameter token] (text ++ []) [text] := .parameter early .done
  rw [List.append_nil] at nearest
  exact matchSegments_eq_some_iff.mpr nearest

/-- A text is matched exactly when some filling of the segments spells it. The values found are
that filling, one for each parameter, whose lengths come first in lexicographic order: the first
parameter takes as little as it can, then the second, and so on. -/
theorem matchSegments_lexicographic (segments : List Segment) (text : Text) :
    (matchSegments segments text = none ↔ ¬ ∃ values, fill? segments values = some text) ∧
      (∀ values, matchSegments segments text = some values ↔
        fill? segments values = some text ∧ ∀ others, fill? segments others = some text →
          values.map List.length ≤ others.map List.length) ∧
      ∀ values, matchSegments segments text = some values →
        values.length = (parameterTokens segments).length := by
  refine ⟨?_, fun values => ?_, fun values matched => ?_⟩
  · rw [matchSegments_eq_none_iff, not_exists]
    exact Iff.rfl
  · rw [matchSegments_eq_some_iff]
    constructor
    · intro nearest
      exact ⟨nearest.fills, fun others filled => nearest.lengths_le filled⟩
    · rintro ⟨filled, least⟩
      exact nearest_of_lengths_le filled least
  · exact length_of_fill? (matchSegments_eq_some_iff.mp matched).fills

end Stencil
