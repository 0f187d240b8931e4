import Stencil.Matching
import Stencil.Proofs.Matching.Filling
import Stencil.Proofs.Text

/-!
# Paths

A walk leads through literals that stand where they are met and through places that are given an
end. `Passed` says that some choices lead from the beginning to a segment and a position, each of
them ending its place at a position with only hopeless ones before it. A position is `Hopeless`
when the segments left cannot spell the text left. Hopelessness is passed back through literals
and through places without another end, and the nearest filling of what is left completes to the
nearest filling of all segments (`Passed.nearest`).
-/
namespace Stencil

/-- Whether a text can begin with a segment: a place can be anywhere. -/
def Segment.Opens (text : Text) : Segment → Prop
  | literal needle => needle <+: text
  | parameter _ => True

/-- What is spelled from a segment on begins with the segment. -/
theorem opens_of_fill? {segment : Segment} {rest : List Segment} {values : List Text} {text : Text}
    (filled : fill? (segment :: rest) values = some text) : segment.Opens text := by
  cases segment with
  | literal needle =>
    obtain ⟨tail, -, joined⟩ := fill?_literal_eq_some.mp filled
    exact ⟨tail, joined⟩
  | parameter token => trivial

/-- The boundary found is a position of the text, and the segment after the place begins at none
that is passed over. -/
theorem boundaryFrom_nearest {text : Text} {following : Segment} {position stop : Nat}
    (found : boundaryFrom text following position = some stop) :
    position ≤ stop ∧ stop ≤ text.length ∧
      ∀ earlier, position ≤ earlier → earlier < stop → ¬ following.Opens (text.drop earlier) := by
  unfold boundaryFrom at found
  split at found
  · contradiction
  · rename_i inside
    cases following with
    | parameter token =>
      obtain rfl := Option.some.inj found
      exact ⟨Nat.le_refl _, by omega, fun earlier lower upper => by omega⟩
    | literal needle =>
      obtain ⟨lower, upper, nowhere⟩ := Text.firstFrom_leftmost found
      rw [List.length_drop] at upper
      refine ⟨lower, by omega, fun earlier after before => ?_⟩
      have absent := nowhere (earlier - position) (by omega)
      rwa [List.drop_drop, Nat.add_sub_cancel' after] at absent

/-- When no boundary is found, the segment after the place begins at none of the positions left. -/
theorem boundaryFrom_nowhere {text : Text} {following : Segment} {position : Nat}
    (missing : boundaryFrom text following position = none) (later : Nat) (after : position ≤ later)
    (inside : later ≤ text.length) : ¬ following.Opens (text.drop later) := by
  unfold boundaryFrom at missing
  split at missing
  · omega
  · cases following with
    | parameter token => contradiction
    | literal needle =>
      have absent := Text.firstFrom_nowhere missing (later - position)
        (by rw [List.length_drop]; omega)
      rwa [List.drop_drop, Nat.add_sub_cancel' after] at absent

section Search

variable (text : Text) (segments : List Segment)

/-- The segments from an index on cannot spell the text from a position on. -/
def Hopeless (index cursor : Nat) : Prop := Unfillable (segments.drop index) (text.drop cursor)

/-- Literals lead from one segment and position to another. -/
inductive Literals (index cursor : Nat) : Nat → Nat → Prop
  /-- No literal stands between. -/
  | refl : Literals index cursor index cursor
  /-- One more literal stands at the position reached. -/
  | step {index' cursor' : Nat} {needle : Text} {rest : List Segment}
      (before : Literals index cursor index' cursor')
      (here : segments.drop index' = .literal needle :: rest)
      (stands : needle <+: text.drop cursor') :
      Literals index cursor (index' + 1) (cursor' + needle.length)

/-- What a choice must satisfy while it stands. -/
structure Choice.Fits (choice : Choice) : Prop where
  /-- The choice is made at a place. -/
  place : ∃ token rest, segments.drop choice.index = .parameter token :: rest
  /-- The place does not end before it begins. -/
  ordered : choice.start ≤ choice.stop
  /-- The place ends in the text. -/
  inside : choice.stop ≤ text.length
  /-- The place passes over hopeless positions only. -/
  nearest : ∀ earlier, choice.start ≤ earlier → earlier < choice.stop →
    Hopeless text segments (choice.index + 1) earlier
  /-- A place behind which nothing follows takes all the rest. -/
  last : segments.drop (choice.index + 1) = [] → choice.stop = text.length

/-- The choices, the last one first, lead from the beginning to a segment and a position. -/
def Passed : List Choice → Nat → Nat → Prop
  | [], index, cursor => Literals text segments 0 0 index cursor
  | choice :: outer, index, cursor =>
    Passed outer choice.index choice.start ∧ choice.Fits text segments ∧
      Literals text segments (choice.index + 1) choice.stop index cursor

/-- The next position at which a place can end. -/
def Choice.nextStop? (choice : Choice) : Option Nat :=
  segments[choice.index + 1]?.bind fun following => boundaryFrom text following (choice.stop + 1)

end Search

variable {text : Text} {segments : List Segment}

/-- The segments after a segment. -/
theorem drop_succ_of_drop {index : Nat} {segment : Segment} {rest : List Segment}
    (here : segments.drop index = segment :: rest) : segments.drop (index + 1) = rest := by
  rw [← List.drop_drop, here, List.drop_one, List.tail_cons]

/-- The segments up to a segment, with it. -/
theorem take_succ_of_drop {index : Nat} {segment : Segment} {rest : List Segment}
    (here : segments.drop index = segment :: rest) :
    segments.take (index + 1) = segments.take index ++ [segment] := by
  rw [List.take_add_one, ← List.head?_drop, here]
  rfl

/-- From a literal that stands at a position, what is hopeless after it is hopeless before it. -/
theorem hopeless_literal {index cursor : Nat} {needle : Text} {rest : List Segment}
    (here : segments.drop index = .literal needle :: rest)
    (after : Hopeless text segments (index + 1) (cursor + needle.length)) :
    Hopeless text segments index cursor := by
  intro values filled
  rw [here] at filled
  obtain ⟨tail, spelled, joined⟩ := fill?_literal_eq_some.mp filled
  rw [Hopeless, drop_succ_of_drop here, ← List.drop_drop, ← joined, List.drop_left] at after
  exact after values spelled

/-- A place is hopeless when it is hopeless to end it anywhere. -/
theorem hopeless_parameter {index cursor : Nat} {token : Text} {rest : List Segment}
    (here : segments.drop index = .parameter token :: rest) (inside : cursor ≤ text.length)
    (nowhere : ∀ stop, cursor ≤ stop → stop ≤ text.length →
      Hopeless text segments (index + 1) stop) : Hopeless text segments index cursor := by
  intro values filled
  rw [here] at filled
  obtain ⟨value, others, tail, rfl, spelled, joined⟩ := fill?_parameter_eq_some.mp filled
  have fits : value.length + tail.length = text.length - cursor := by
    rw [← List.length_append, joined, List.length_drop]
  have after := nowhere (cursor + value.length) (by omega) (by omega)
  rw [Hopeless, drop_succ_of_drop here, ← List.drop_drop, ← joined, List.drop_left] at after
  exact after others spelled

/-- Where a segment cannot begin, it is hopeless to go on with it. -/
theorem hopeless_of_not_opens {index cursor : Nat} {segment : Segment} {rest : List Segment}
    (here : segments.drop index = segment :: rest) (closed : ¬ segment.Opens (text.drop cursor)) :
    Hopeless text segments index cursor := by
  intro values filled
  rw [here] at filled
  exact closed (opens_of_fill? filled)

/-- Behind the last segment, only the end of the text is not hopeless. -/
theorem hopeless_end {index cursor : Nat} (ended : segments.drop index = [])
    (early : cursor < text.length) : Hopeless text segments index cursor := by
  intro values filled
  rw [ended] at filled
  cases values with
  | nil =>
    have empty : text.drop cursor = [] := (Option.some.inj filled).symm
    rw [List.drop_eq_nil_iff] at empty
    omega
  | cons value others => simp [fill?] at filled

namespace Literals

variable {index cursor index' cursor' : Nat}

/-- Literals lead forward. -/
theorem index_le (literals : Literals text segments index cursor index' cursor') :
    index ≤ index' := by
  induction literals with
  | refl => exact Nat.le_refl _
  | step before here stands ih => omega

/-- Literals lead to a position of the text. -/
theorem cursor_le (literals : Literals text segments index cursor index' cursor')
    (inside : cursor ≤ text.length) : cursor' ≤ text.length := by
  induction literals with
  | refl => exact inside
  | step before here stands ih =>
    have fits := stands.length_le
    rw [List.length_drop] at fits
    omega

/-- When it is hopeless behind literals, it is hopeless before them. -/
theorem hopeless (literals : Literals text segments index cursor index' cursor')
    (after : Hopeless text segments index' cursor') : Hopeless text segments index cursor := by
  induction literals with
  | refl => exact after
  | step before here stands ih => exact ih (hopeless_literal here after)

/-- The nearest filling behind literals is the nearest one before them. -/
theorem nearest (literals : Literals text segments index cursor index' cursor')
    {values : List Text}
    (after : Nearest (segments.drop index') (text.drop cursor') values) :
    Nearest (segments.drop index) (text.drop cursor) values := by
  induction literals with
  | refl => exact after
  | @step index' cursor' needle rest before here stands ih =>
    apply ih
    obtain ⟨tail, joined⟩ := stands
    rw [drop_succ_of_drop here, ← List.drop_drop, ← joined, List.drop_left] at after
    rw [here, ← joined]
    exact .literal after

end Literals

namespace Choice.Fits

variable {choice : Choice}

/-- A place whose last end is hopeless and that cannot end later is hopeless. -/
theorem hopeless (fits : choice.Fits text segments)
    (exhausted : choice.nextStop? text segments = none)
    (after : Hopeless text segments (choice.index + 1) choice.stop) :
    Hopeless text segments choice.index choice.start := by
  obtain ⟨token, rest, here⟩ := fits.place
  apply hopeless_parameter here (Nat.le_trans fits.ordered fits.inside)
  intro stop lower upper
  rcases Nat.lt_trichotomy stop choice.stop with earlier | rfl | later
  · exact fits.nearest stop lower earlier
  · exact after
  · cases rest with
    | nil =>
      have := fits.last (drop_succ_of_drop here)
      omega
    | cons following rest =>
      have following_at : segments[choice.index + 1]? = some following := by
        rw [← List.head?_drop, drop_succ_of_drop here, List.head?_cons]
      rw [nextStop?, following_at, Option.bind_some] at exhausted
      exact hopeless_of_not_opens (drop_succ_of_drop here)
        (boundaryFrom_nowhere exhausted stop later upper)

/-- A place whose last end is hopeless still fits with the next end. -/
theorem resume (fits : choice.Fits text segments) {stop : Nat}
    (next : choice.nextStop? text segments = some stop)
    (after : Hopeless text segments (choice.index + 1) choice.stop) :
    ({ choice with stop } : Choice).Fits text segments ∧ choice.stop < stop := by
  obtain ⟨following, following_at, boundary⟩ := Option.bind_eq_some_iff.mp next
  obtain ⟨lower, upper, nowhere⟩ := boundaryFrom_nearest boundary
  rw [← List.head?_drop, List.head?_eq_some_iff] at following_at
  obtain ⟨rest, here⟩ := following_at
  have ordered := fits.ordered
  refine ⟨⟨fits.place, by dsimp only; omega, upper, fun earlier from_start before => ?_, ?_⟩,
    by omega⟩
  · rcases Nat.lt_trichotomy earlier choice.stop with passed | rfl | between
    · exact fits.nearest earlier from_start passed
    · exact after
    · exact hopeless_of_not_opens here (nowhere earlier between before)
  · intro ended
    rw [here] at ended
    contradiction

end Choice.Fits

namespace Passed

variable {choices : List Choice} {index cursor : Nat}

/-- The choices are made before the segment reached. -/
theorem index_lt (passed : Passed text segments choices index cursor) :
    ∀ choice ∈ choices, choice.index < index := by
  induction choices generalizing index cursor with
  | nil => exact fun choice member => absurd member List.not_mem_nil
  | cons inner outer ih =>
    obtain ⟨before, -, literals⟩ := passed
    have forward := literals.index_le
    intro choice member
    rcases List.mem_cons.mp member with rfl | member
    · omega
    · have := ih before choice member
      omega

/-- The position reached is a position of the text. -/
theorem cursor_le (passed : Passed text segments choices index cursor) :
    cursor ≤ text.length := by
  cases choices with
  | nil => exact Literals.cursor_le passed (Nat.zero_le _)
  | cons inner outer => exact passed.2.2.cursor_le passed.2.1.inside

/-- One more literal is passed. -/
theorem literal (passed : Passed text segments choices index cursor) {needle : Text}
    {rest : List Segment} (here : segments.drop index = .literal needle :: rest)
    (stands : needle <+: text.drop cursor) :
    Passed text segments choices (index + 1) (cursor + needle.length) := by
  cases choices with
  | nil => exact Literals.step passed here stands
  | cons inner outer => exact ⟨passed.1, passed.2.1, passed.2.2.step here stands⟩

/-- The texts taken so far, with the nearest filling from the point reached, are the nearest
filling of all segments. -/
theorem nearest (passed : Passed text segments choices index cursor) {values : List Text}
    (after : Nearest (segments.drop index) (text.drop cursor) values) :
    Nearest segments text (choices.reverse.map (Choice.value text) ++ values) := by
  induction choices generalizing index cursor values with
  | nil => simpa using Literals.nearest passed after
  | cons choice outer ih =>
    obtain ⟨before, fits, literals⟩ := passed
    obtain ⟨token, rest, here⟩ := fits.place
    have ordered := fits.ordered
    have inside := fits.inside
    have behind := literals.nearest after
    have split : choice.value text ++ text.drop choice.stop = text.drop choice.start := by
      rw [Choice.value, ← Nat.add_sub_cancel' ordered, ← List.drop_drop,
        Nat.add_sub_cancel_left, List.take_append_drop]
    have length_value : (choice.value text).length = choice.stop - choice.start := by
      rw [Choice.value, List.length_take, List.length_drop]
      omega
    have chosen : Nearest (segments.drop choice.index) (text.drop choice.start)
        (choice.value text :: values) := by
      rw [drop_succ_of_drop here] at behind
      rw [here, ← split]
      refine .parameter (fun shorter less => ?_) behind
      have hopeless := fits.nearest (choice.start + shorter) (by omega) (by omega)
      rwa [Hopeless, drop_succ_of_drop here, ← List.drop_drop, ← split] at hopeless
    simpa using ih before chosen

end Passed

/-- The choice made where a place is entered fits. -/
theorem fits_of_boundary {index cursor stop : Nat} {token : Text} {following : Segment}
    {rest : List Segment} (here : segments.drop index = .parameter token :: following :: rest)
    (boundary : boundaryFrom text following cursor = some stop) :
    (⟨index, cursor, stop⟩ : Choice).Fits text segments := by
  obtain ⟨lower, upper, nowhere⟩ := boundaryFrom_nearest boundary
  refine ⟨⟨token, _, here⟩, lower, upper, fun earlier from_start before => ?_, fun ended => ?_⟩
  · exact hopeless_of_not_opens (drop_succ_of_drop here) (nowhere earlier from_start before)
  · rw [drop_succ_of_drop here] at ended
    contradiction

/-- The choice made at a place behind which nothing follows fits. -/
theorem fits_of_last {index cursor : Nat} {token : Text}
    (here : segments.drop index = [.parameter token]) (inside : cursor ≤ text.length) :
    (⟨index, cursor, text.length⟩ : Choice).Fits text segments :=
  ⟨⟨token, _, here⟩, inside, Nat.le_refl _,
    fun _ _ before => hopeless_end (drop_succ_of_drop here) before, fun _ => rfl⟩

/-- A place is hopeless when the segment after it can begin nowhere. -/
theorem hopeless_of_blocked {index cursor : Nat} {token : Text} {following : Segment}
    {rest : List Segment} (here : segments.drop index = .parameter token :: following :: rest)
    (inside : cursor ≤ text.length) (missing : boundaryFrom text following cursor = none) :
    Hopeless text segments index cursor :=
  hopeless_parameter here inside fun stop lower upper =>
    hopeless_of_not_opens (drop_succ_of_drop here) (boundaryFrom_nowhere missing stop lower upper)

end Stencil
