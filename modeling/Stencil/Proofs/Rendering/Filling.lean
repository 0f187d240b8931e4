import Stencil.Rendering
import Stencil.Proofs.Matching.Filling
import Stencil.Proofs.Outcome

/-!
# Rendering as filling

Rendering finds a text for each parameter (`Renderer.values`) and fills the places with these
texts: the rendered text is what the filled segments spell (`render_eq_ok`).
-/
namespace Stencil

/-- The text of the value that a key path leads to. -/
def Renderer.valueText (renderer : Renderer) (object : Value) (path : Text) : Outcome Text := do
  renderer.stringify (← renderer.resolve object path)

/-- The texts of the values of a pattern's parameters, in order. -/
def Renderer.values (renderer : Renderer) (pattern : Pattern) (object : Value) :
    Outcome (List Text) :=
  pattern.tokens.mapM (renderer.valueText object)

variable {renderer : Renderer} {object : Value}

/-- The texts of segments, one after another, are what the segments spell when their places are
filled with the texts of the parameters' values. -/
theorem mapM_renderSegment_eq_ok {segments : List Segment} {rendered : Text} :
    (∃ parts, segments.mapM (renderer.renderSegment object) = .ok parts ∧
        parts.flatten = rendered) ↔
      ∃ values, (parameterTokens segments).mapM (renderer.valueText object) = .ok values ∧
        fill? segments values = some rendered := by
  simp only [mapM_eq_ok]
  induction segments generalizing rendered with
  | nil =>
    constructor
    · rintro ⟨parts, each, rfl⟩
      cases each
      exact ⟨[], .nil, rfl⟩
    · rintro ⟨values, each, filled⟩
      cases each
      exact ⟨[], .nil, Option.some.inj filled⟩
  | cons segment rest ih =>
    cases segment with
    | literal needle =>
      constructor
      · rintro ⟨parts, each, rfl⟩
        cases each with
        | cons first others =>
          obtain rfl := Except.ok.inj first
          obtain ⟨values, found, filled⟩ := ih.mp ⟨_, others, rfl⟩
          exact ⟨values, found, fill?_literal_eq_some.mpr ⟨_, filled, rfl⟩⟩
      · rintro ⟨values, found, filled⟩
        obtain ⟨tail, spelled, rfl⟩ := fill?_literal_eq_some.mp filled
        obtain ⟨parts, each, rfl⟩ := ih.mpr ⟨values, found, spelled⟩
        exact ⟨needle :: parts, .cons rfl each, rfl⟩
    | parameter token =>
      constructor
      · rintro ⟨parts, each, rfl⟩
        cases each with
        | cons first others =>
          obtain ⟨values, found, filled⟩ := ih.mp ⟨_, others, rfl⟩
          exact ⟨_ :: values, .cons first found,
            fill?_parameter_eq_some.mpr ⟨_, values, _, rfl, filled, rfl⟩⟩
      · rintro ⟨values, found, filled⟩
        obtain ⟨value, others, tail, rfl, spelled, rfl⟩ := fill?_parameter_eq_some.mp filled
        cases found with
        | cons first found =>
          obtain ⟨parts, each, rfl⟩ := ih.mpr ⟨others, found, spelled⟩
          exact ⟨value :: parts, .cons first each, rfl⟩

/-- An inbound pattern is rendered as the text that its segments spell when their places are filled
with the texts of the parameters' values. -/
theorem render_eq_ok {pattern : Pattern} {rendered : Text} :
    renderer.render pattern object = .ok rendered ↔
      pattern.direction = .inbound ∧ ∃ values, renderer.values pattern object = .ok values ∧
        fill? pattern.segments values = some rendered := by
  rw [Renderer.values, Pattern.tokens, ← mapM_renderSegment_eq_ok, Renderer.render]
  cases pattern.direction with
  | outbound => simp
  | inbound =>
    dsimp only
    rw [bind_eq_ok]
    constructor
    · rintro ⟨parts, each, same⟩
      exact ⟨rfl, parts, each, Except.ok.inj same⟩
    · rintro ⟨-, parts, each, rfl⟩
      exact ⟨parts, each, rfl⟩

end Stencil
