import Stencil.Proofs.KeyPath.Mapping
import Stencil.Proofs.Matching.Extraction
import Stencil.Proofs.Rendering.Filling

/-!
# Rendering and matching

What a pattern renders conforms to it, and the values rendered are found again when each of them
is told apart from the delimiter behind it (`extract_render`). The other way round, a text that
conforms is rendered again from the parameters found in it (`render_parameters`).
-/
namespace Stencil

/-- Whether a value ends where the segment behind it begins: a literal stands in the value followed
by the literal only at the end of the value, and before another place the value is empty. -/
def Segment.Delimits (value : Text) : Segment → Prop
  | .literal needle => ∀ offset ≤ (value ++ needle).length,
      needle <+: (value ++ needle).drop offset → offset = value.length
  | .parameter _ => value = []

/-- Whether a value is delimited can be computed. -/
instance Segment.decidableDelimits (value : Text) :
    (segment : Segment) → Decidable (segment.Delimits value)
  | .literal needle => inferInstanceAs (Decidable (∀ offset ≤ (value ++ needle).length,
      needle <+: (value ++ needle).drop offset → offset = value.length))
  | .parameter _ => inferInstanceAs (Decidable (value = []))

/-- Whether each value but the last ends where the segment behind its place begins. -/
def Delimited : List Segment → List Text → Prop
  | .literal _ :: rest, values => Delimited rest values
  | .parameter _ :: rest, value :: others =>
    (others ≠ [] → ∀ following ∈ rest.head?, following.Delimits value) ∧ Delimited rest others
  | _, _ => True

/-- Whether values are delimited can be computed. -/
instance decidableDelimited :
    (segments : List Segment) → (values : List Text) → Decidable (Delimited segments values)
  | .literal _ :: rest, values => decidableDelimited rest values
  | .parameter _ :: rest, value :: others =>
    have := decidableDelimited rest others
    inferInstanceAs (Decidable ((others ≠ [] → ∀ following ∈ rest.head?,
      following.Delimits value) ∧ Delimited rest others))
  | .parameter _ :: _, [] | [], _ => .isTrue trivial

/-- Behind a value that is delimited, the segments left spell nothing from an earlier position. -/
theorem unfillable_of_delimits {rest : List Segment} {value tail : Text} {others : List Text}
    (filled : fill? rest others = some tail) (left : others ≠ [])
    (delimited : ∀ following ∈ rest.head?, following.Delimits value) (shorter : Nat)
    (less : shorter < value.length) : Unfillable rest ((value ++ tail).drop shorter) := by
  intro values spelled
  cases rest with
  | nil =>
    cases others with
    | nil => exact left rfl
    | cons other others => simp [fill?] at filled
  | cons following rest =>
    have ends := delimited following rfl
    cases following with
    | parameter token =>
      obtain rfl : value = [] := ends
      exact absurd less (Nat.not_lt_zero _)
    | literal needle =>
      obtain ⟨tail', -, rfl⟩ := fill?_literal_eq_some.mp filled
      obtain ⟨tail'', -, joined⟩ := fill?_literal_eq_some.mp spelled
      -- The needle that stands at the earlier position ends inside the value and its delimiter.
      have stands : needle <+: (value ++ needle).drop shorter := by
        rw [← List.append_assoc, List.drop_append_of_le_length (by
          rw [List.length_append]
          omega)] at joined
        refine List.prefix_of_prefix_length_le ⟨tail'', joined⟩ (List.prefix_append _ tail') ?_
        rw [List.length_drop, List.length_append]
        omega
      have := ends shorter (by rw [List.length_append]; omega) stands
      omega

/-- Behind the last value, the segments left spell nothing from an earlier position. -/
theorem unfillable_of_last {rest : List Segment} {value tail : Text}
    (filled : fill? rest [] = some tail) (shorter : Nat) (less : shorter < value.length) :
    Unfillable rest ((value ++ tail).drop shorter) := by
  intro values spelled
  have no_place := length_of_fill? filled
  rw [← length_of_fill? spelled, List.length_nil] at no_place
  obtain rfl := List.eq_nil_of_length_eq_zero no_place.symm
  have same := congrArg List.length (Option.some.inj (spelled.symm.trans filled))
  rw [List.length_drop, List.length_append] at same
  omega

/-- Values that are delimited are the nearest filling of the text that they spell. -/
theorem nearest_of_delimited {segments : List Segment} {text : Text} {values : List Text}
    (filled : fill? segments values = some text) (delimited : Delimited segments values) :
    Nearest segments text values := by
  induction segments generalizing text values with
  | nil =>
    cases values with
    | nil =>
      obtain rfl := Option.some.inj filled
      exact .done
    | cons value others => simp [fill?] at filled
  | cons segment rest ih =>
    cases segment with
    | literal needle =>
      obtain ⟨tail, spelled, rfl⟩ := fill?_literal_eq_some.mp filled
      exact .literal (ih spelled delimited)
    | parameter token =>
      obtain ⟨value, others, tail, rfl, spelled, rfl⟩ := fill?_parameter_eq_some.mp filled
      obtain ⟨here, behind⟩ := delimited
      refine .parameter (fun shorter less => ?_) (ih spelled behind)
      by_cases last : others = []
      · subst last
        exact unfillable_of_last spelled shorter less
      · exact unfillable_of_delimits spelled last (here last) shorter less

/-- What a pattern renders conforms to it. The values rendered, one for each parameter, are
extracted again when each but the last ends where the segment behind it begins. -/
theorem extract_render (renderer : Renderer) (pattern : Pattern) (object : Value) (rendered : Text)
    (shown : renderer.render pattern object = .ok rendered) :
    pattern.conforms rendered = true ∧
      ∃ values, renderer.values pattern object = .ok values ∧
        (Delimited pattern.segments values → pattern.extract rendered = some values) := by
  obtain ⟨-, values, found, filled⟩ := render_eq_ok.mp shown
  refine ⟨?_, values, found, fun delimited => ?_⟩
  · rw [Pattern.conforms, Pattern.extract, Option.isSome_iff_ne_none]
    intro missing
    exact matchSegments_eq_none_iff.mp missing values filled
  · exact matchSegments_eq_some_iff.mpr (nearest_of_delimited filled delimited)

/-- The pattern of a template with two places apart. -/
def dashed : Pattern :=
  ⟨"(a)--(b)", [.parameter "a", .literal "--", .parameter "b"], .inbound, ":", "init"⟩

/-- Two values are rendered and extracted again though both hold parts of the delimiter. -/
theorem extract_render_dashed :
    (State.renderer ⟨.empty, .empty⟩).render dashed
        (.ofEntries [("a", .text "x-y"), ("b", .text "--z")]) = .ok "x-y----z" ∧
      dashed.conforms "x-y----z" = true ∧ Delimited dashed.segments ["x-y", "--z"] ∧
      dashed.extract "x-y----z" = some (["x-y", "--z"] : List Text) := by
  have shown : (State.renderer ⟨.empty, .empty⟩).render dashed
      (.ofEntries [("a", .text "x-y"), ("b", .text "--z")]) = .ok "x-y----z" := by cbv
  have given : (State.renderer ⟨.empty, .empty⟩).values dashed
      (.ofEntries [("a", .text "x-y"), ("b", .text "--z")]) = .ok ["x-y", "--z"] := by cbv
  have delimited : Delimited dashed.segments ["x-y", "--z"] := by decide
  obtain ⟨conforms, values, found, extracted⟩ := extract_render _ dashed _ _ shown
  obtain rfl := Except.ok.inj (given.symm.trans found)
  exact ⟨shown, conforms, delimited, extracted delimited⟩

/-- A plain key is rendered from a mapping of texts as the text that the mapping has for it. -/
theorem valueText_ofEntries (state : State) {key text : Text} (plain : PlainKey key)
    {entries : List (Text × Text)} (distinct : (entries.map Prod.fst).Nodup)
    (member : (key, text) ∈ entries) :
    state.renderer.valueText (.ofEntries (entries.map fun entry => (entry.1, .text entry.2))) key =
      .ok text := by
  have found : (entries.map fun entry => (entry.1, Value.text entry.2)).lookup key =
      some (.text text) := by
    apply Text.lookup_of_mem
    · rwa [List.map_map]
    · exact List.mem_map.mpr ⟨_, member, rfl⟩
  rw [Renderer.valueText, State.renderer]
  dsimp only
  rw [State.resolvePath, state.resolve_ofEntries plain found]
  rfl

/-- A text that conforms to an inbound pattern is rendered again from the parameters found in it,
if the parameters are different plain keys. -/
theorem render_parameters (state : State) (pattern : Pattern) (text : Text)
    (found : List (Text × Text)) (inbound : pattern.direction = .inbound)
    (distinct : pattern.tokens.Nodup) (plain : ∀ token ∈ pattern.tokens, PlainKey token)
    (extracted : pattern.parameters? text = some found) :
    state.renderer.render pattern (.ofEntries (found.map fun entry => (entry.1, .text entry.2))) =
      .ok text := by
  obtain ⟨values, matched, rfl⟩ := Option.map_eq_some_iff.mp extracted
  have filled := (matchSegments_eq_some_iff.mp matched).fills
  have same_length : pattern.tokens.length = values.length := (length_of_fill? filled).symm
  have names : (pattern.tokens.zip values).map Prod.fst = pattern.tokens :=
    List.map_fst_zip (Nat.le_of_eq same_length)
  rw [Text.lastEntries_of_nodup (by rwa [names])]
  refine render_eq_ok.mpr ⟨inbound, values, ?_, filled⟩
  rw [Renderer.values, mapM_eq_ok, List.forall₂_iff_zip]
  refine ⟨same_length, fun {token value} member => ?_⟩
  exact valueText_ofEntries state (plain token (List.of_mem_zip member).1) (by rwa [names]) member

/-- A text is rendered again from the parameters found in it though a value holds what would be a
place in a template. -/
theorem render_parameters_dashed :
    compile ⟨":", "init", false⟩ "(a)--(b)" = .ok dashed ∧
      dashed.parameters? "x-y--(b).@" =
        some ([("a", "x-y"), ("b", "(b).@")] : List (Text × Text)) ∧
      (State.renderer ⟨.empty, .empty⟩).render dashed
        (.ofEntries [("a", .text "x-y"), ("b", .text "(b).@")]) = .ok "x-y--(b).@" := by
  have matched : dashed.extract "x-y--(b).@" = some (["x-y", "(b).@"] : List Text) :=
    matchSegments_eq_some_iff.mpr (nearest_of_delimited rfl (by decide))
  have extracted : dashed.parameters? "x-y--(b).@" =
      some ([("a", "x-y"), ("b", "(b).@")] : List (Text × Text)) := by
    rw [Pattern.parameters?, matched]
    rfl
  have plain : ∀ token ∈ dashed.tokens, PlainKey token := by
    intro token member
    rcases List.mem_pair.mp member with rfl | rfl
    · exact ⟨by decide, by decide, by decide, by decide⟩
    · exact ⟨by decide, by decide, by decide, by decide⟩
  have rendered := render_parameters ⟨.empty, .empty⟩ dashed _ _ rfl (by decide) plain extracted
  exact ⟨rfl, extracted, rendered⟩

end Stencil
