import Mathlib.Logic.Relation
import Stencil.Proofs.Matching.Path

/-!
# Walks

A search is a run of single moves between points: it passes a literal, enters a place, meets a
dead end, goes back to a place that can end later, or leaves a place that cannot (`Move`).
`Point.Sound` is what every move keeps: the choices made lead to where the walk stands, every
position remembered is hopeless, and no place still open is remembered (`Move.sound`,
`Run.sound`). The functions that search make such runs (`run_advance`, `run_backtrack_some`).
-/
namespace Stencil

/-- What holds of a search that stands at a segment and a position. -/
structure Walk.Sound (text : Text) (segments : List Segment) (walk : Walk) (index cursor : Nat) :
    Prop where
  /-- The choices lead there. -/
  passed : Passed text segments walk.choices index cursor
  /-- What is remembered is hopeless. -/
  hopeless : ∀ place ∈ walk.dead, Hopeless text segments place.1 place.2
  /-- No place still open is remembered. -/
  unburied : ∀ choice ∈ walk.choices, (choice.index, choice.start) ∉ walk.dead

/-- A point of a search. -/
inductive Point
  /-- The walk goes forward from a segment and a position. -/
  | forward (index cursor : Nat) (walk : Walk)
  /-- The walk goes back from a dead end. -/
  | back (walk : Walk)
  /-- The text is matched to its end. -/
  | found (walk : Walk)

/-- What the search has done so far. -/
def Point.walk : Point → Walk
  | forward _ _ walk | back walk | found walk => walk

/-- A single move of a search. -/
inductive Move (text : Text) (segments : List Segment) : Point → Point → Prop
  /-- The segments end where the text ends. -/
  | finish {index : Nat} {walk : Walk} (ended : segments.drop index = []) :
      Move text segments (.forward index text.length walk) (.found walk)
  /-- The segments end elsewhere. -/
  | overhang {index cursor : Nat} {walk : Walk} (ended : segments.drop index = [])
      (elsewhere : cursor ≠ text.length) :
      Move text segments (.forward index cursor walk) (.back walk)
  /-- The position is remembered as hopeless. -/
  | known {index cursor : Nat} {walk : Walk} {segment : Segment} {rest : List Segment}
      (here : segments.drop index = segment :: rest) (buried : (index, cursor) ∈ walk.dead) :
      Move text segments (.forward index cursor walk) (.back walk)
  /-- A literal stands at the position. -/
  | literal {index cursor : Nat} {walk : Walk} {needle : Text} {rest : List Segment}
      (here : segments.drop index = .literal needle :: rest)
      (unburied : (index, cursor) ∉ walk.dead) (stands : needle <+: text.drop cursor) :
      Move text segments (.forward index cursor walk)
        (.forward (index + 1) (cursor + needle.length) walk)
  /-- Another text than the literal stands at the position. -/
  | mismatch {index cursor : Nat} {walk : Walk} {needle : Text} {rest : List Segment}
      (here : segments.drop index = .literal needle :: rest)
      (unburied : (index, cursor) ∉ walk.dead) (differs : ¬ needle <+: text.drop cursor) :
      Move text segments (.forward index cursor walk) (.back (walk.bury index cursor))
  /-- The place behind which nothing follows takes all the rest. -/
  | last {index cursor : Nat} {walk : Walk} {token : Text}
      (here : segments.drop index = [.parameter token])
      (unburied : (index, cursor) ∉ walk.dead) :
      Move text segments (.forward index cursor walk)
        (.found (walk.choose ⟨index, cursor, text.length⟩))
  /-- A place takes the text up to where the segment after it can begin. -/
  | enter {index cursor stop : Nat} {walk : Walk} {token : Text} {following : Segment}
      {rest : List Segment} (here : segments.drop index = .parameter token :: following :: rest)
      (unburied : (index, cursor) ∉ walk.dead)
      (boundary : boundaryFrom text following cursor = some stop) :
      Move text segments (.forward index cursor walk)
        (.forward (index + 1) stop (walk.choose ⟨index, cursor, stop⟩))
  /-- The segment after a place can begin nowhere. -/
  | blocked {index cursor : Nat} {walk : Walk} {token : Text} {following : Segment}
      {rest : List Segment} (here : segments.drop index = .parameter token :: following :: rest)
      (unburied : (index, cursor) ∉ walk.dead)
      (missing : boundaryFrom text following cursor = none) :
      Move text segments (.forward index cursor walk) (.back (walk.bury index cursor))
  /-- The last place entered ends later. -/
  | resume {choice : Choice} {outer : List Choice} {dead : Std.HashSet (Nat × Nat)} {stop : Nat}
      (next : choice.nextStop? text segments = some stop) :
      Move text segments (.back ⟨choice :: outer, dead⟩)
        (.forward (choice.index + 1) stop
          ⟨{ choice with stop } :: outer, dead.insert (choice.index + 1, choice.stop)⟩)
  /-- The last place entered cannot end later. -/
  | leave {choice : Choice} {outer : List Choice} {dead : Std.HashSet (Nat × Nat)}
      (exhausted : choice.nextStop? text segments = none) :
      Move text segments (.back ⟨choice :: outer, dead⟩)
        (.back ⟨outer, (dead.insert (choice.index + 1, choice.stop)).insert
          (choice.index, choice.start)⟩)

/-- What every move of a search keeps. A walk goes back from a hopeless position only. -/
def Point.Sound (text : Text) (segments : List Segment) : Point → Prop
  | forward index cursor walk => walk.Sound text segments index cursor
  | back walk => ∃ index cursor, walk.Sound text segments index cursor ∧
      Hopeless text segments index cursor
  | found walk => ∃ index, segments.drop index = [] ∧ walk.Sound text segments index text.length

variable {text : Text} {segments : List Segment}

namespace Walk.Sound

variable {walk : Walk} {index cursor : Nat}

/-- Remembering one more hopeless position leaves only hopeless ones remembered. -/
theorem hopeless_insert {dead : Std.HashSet (Nat × Nat)}
    (remembered : ∀ place ∈ dead, Hopeless text segments place.1 place.2)
    (new : Hopeless text segments index cursor) :
    ∀ place ∈ dead.insert (index, cursor), Hopeless text segments place.1 place.2 := by
  intro place member
  rcases Std.HashSet.mem_insert.mp member with same | member
  · obtain rfl := eq_of_beq same
    exact new
  · exact remembered place member

/-- A choice before a segment is not the position remembered at it. -/
theorem unburied_insert {dead : Std.HashSet (Nat × Nat)} {choice : Choice}
    (unburied : (choice.index, choice.start) ∉ dead) (before : choice.index < index) :
    (choice.index, choice.start) ∉ dead.insert (index, cursor) := by
  intro member
  rcases Std.HashSet.mem_insert.mp member with same | member
  · have := congrArg Prod.fst (eq_of_beq same)
    dsimp only at this
    omega
  · exact unburied member

/-- A search that has not begun is sound. -/
theorem start : Walk.start.Sound text segments 0 0 where
  passed := .refl
  hopeless _ member := absurd member Std.HashSet.not_mem_empty
  unburied _ member := absurd member List.not_mem_nil

/-- A hopeless position may be remembered. -/
theorem bury (sound : walk.Sound text segments index cursor)
    (new : Hopeless text segments index cursor) :
    (walk.bury index cursor).Sound text segments index cursor where
  passed := sound.passed
  hopeless := hopeless_insert sound.hopeless new
  unburied choice member :=
    unburied_insert (sound.unburied choice member) (sound.passed.index_lt choice member)

/-- A place that is not remembered may be entered. -/
theorem choose (sound : walk.Sound text segments index cursor) {stop : Nat}
    (fits : (⟨index, cursor, stop⟩ : Choice).Fits text segments)
    (unburied : (index, cursor) ∉ walk.dead) :
    (walk.choose ⟨index, cursor, stop⟩).Sound text segments (index + 1) stop where
  passed := ⟨sound.passed, fits, .refl⟩
  hopeless := sound.hopeless
  unburied choice member := by
    rcases List.mem_cons.mp member with rfl | member
    · exact unburied
    · exact sound.unburied choice member

end Walk.Sound

/-- Every move of a search keeps the search sound. -/
theorem Move.sound {here next : Point} (move : Move text segments here next)
    (sound : here.Sound text segments) : next.Sound text segments := by
  cases move with
  | finish ended => exact ⟨_, ended, sound⟩
  | overhang ended elsewhere =>
    exact ⟨_, _, sound,
      hopeless_end ended (Nat.lt_of_le_of_ne (Passed.cursor_le sound.passed) elsewhere)⟩
  | known here buried => exact ⟨_, _, sound, sound.hopeless _ buried⟩
  | literal here unburied stands =>
    exact { sound with passed := sound.passed.literal here stands }
  | mismatch here unburied differs =>
    have hopeless := hopeless_of_not_opens here differs
    exact ⟨_, _, sound.bury hopeless, hopeless⟩
  | last here unburied =>
    exact ⟨_, drop_succ_of_drop here,
      sound.choose (fits_of_last here sound.passed.cursor_le) unburied⟩
  | enter here unburied boundary => exact sound.choose (fits_of_boundary here boundary) unburied
  | blocked here unburied missing =>
    have hopeless := hopeless_of_blocked here sound.passed.cursor_le missing
    exact ⟨_, _, sound.bury hopeless, hopeless⟩
  | @resume choice outer dead stop next =>
    obtain ⟨index, cursor, sound, hopeless⟩ := sound
    obtain ⟨before, fits, literals⟩ := sound.passed
    have dead_end := literals.hopeless hopeless
    refine ⟨⟨before, (fits.resume next dead_end).1, .refl⟩,
      Walk.Sound.hopeless_insert sound.hopeless dead_end, fun other member => ?_⟩
    rcases List.mem_cons.mp member with rfl | member
    · exact Walk.Sound.unburied_insert (sound.unburied choice List.mem_cons_self)
        (Nat.lt_succ_self _)
    · have outside := before.index_lt other member
      exact Walk.Sound.unburied_insert (sound.unburied other (List.mem_cons_of_mem _ member))
        (by omega)
  | @leave choice outer dead exhausted =>
    obtain ⟨index, cursor, sound, hopeless⟩ := sound
    obtain ⟨before, fits, literals⟩ := sound.passed
    have dead_end := literals.hopeless hopeless
    have given_up := fits.hopeless exhausted dead_end
    refine ⟨choice.index, choice.start, ⟨before, ?_, fun other member => ?_⟩, given_up⟩
    · exact Walk.Sound.hopeless_insert (Walk.Sound.hopeless_insert sound.hopeless dead_end) given_up
    · have outside := before.index_lt other member
      exact Walk.Sound.unburied_insert (Walk.Sound.unburied_insert
        (sound.unburied other (List.mem_cons_of_mem _ member)) (by omega)) outside

/-- From every point there is at most one move. -/
theorem Move.unique {here next other : Point} (move : Move text segments here next)
    (move' : Move text segments here other) : next = other := by
  cases move <;> cases move' <;> simp_all

/-- A run of moves. -/
abbrev Run (text : Text) (segments : List Segment) : Point → Point → Prop :=
  Relation.ReflTransGen (Move text segments)

/-- Every run of moves keeps the search sound. -/
theorem Run.sound {here there : Point} (run : Run text segments here there)
    (sound : here.Sound text segments) : there.Sound text segments := by
  induction run with
  | refl => exact sound
  | tail before move ih => exact move.sound ih

/-- The point at which going forward ends. -/
def Point.afterAdvance : Bool × Walk → Point
  | (true, walk) => found walk
  | (false, walk) => back walk

section Forward

variable {index cursor : Nat} {walk : Walk} {rest : List Segment}

/-- A walk stops at a position that is remembered as hopeless. -/
theorem advance_known {segment : Segment} (buried : (index, cursor) ∈ walk.dead) :
    advance text (segment :: rest) index cursor walk = (false, walk) := by
  unfold advance
  simp [buried]

/-- A walk goes on behind a literal that stands at the position. -/
theorem advance_literal {needle : Text} (unburied : (index, cursor) ∉ walk.dead)
    (stands : needle <+: text.drop cursor) :
    advance text (.literal needle :: rest) index cursor walk =
      advance text rest (index + 1) (cursor + needle.length) walk := by
  rw [advance]
  simp [unburied, stands]

/-- A walk stops at a literal that does not stand at the position, and remembers the position. -/
theorem advance_mismatch {needle : Text} (unburied : (index, cursor) ∉ walk.dead)
    (differs : ¬ needle <+: text.drop cursor) :
    advance text (.literal needle :: rest) index cursor walk = (false, walk.bury index cursor) := by
  rw [advance]
  simp [unburied, differs]

/-- The last place takes all the rest. -/
theorem advance_last {token : Text} (unburied : (index, cursor) ∉ walk.dead) :
    advance text [.parameter token] index cursor walk =
      (true, walk.choose ⟨index, cursor, text.length⟩) := by
  rw [advance]
  simp [unburied]

/-- A walk stops at a place that can end nowhere, and remembers the position. -/
theorem advance_blocked {token : Text} {following : Segment}
    (unburied : (index, cursor) ∉ walk.dead)
    (nowhere : boundaryFrom text following cursor = none) :
    advance text (.parameter token :: following :: rest) index cursor walk =
      (false, walk.bury index cursor) := by
  rw [advance]
  simp [unburied, nowhere]

/-- A walk goes on behind a place at the nearest position at which the place can end. -/
theorem advance_enter {token : Text} {following : Segment} {stop : Nat}
    (unburied : (index, cursor) ∉ walk.dead)
    (boundary : boundaryFrom text following cursor = some stop) :
    advance text (.parameter token :: following :: rest) index cursor walk =
      advance text (following :: rest) (index + 1) stop (walk.choose ⟨index, cursor, stop⟩) := by
  rw [advance]
  simp [unburied, boundary]

/-- Going forward is a run of moves. -/
theorem run_advance (here : segments.drop index = rest) :
    Run text segments (.forward index cursor walk)
      (.afterAdvance (advance text rest index cursor walk)) := by
  induction rest generalizing index cursor walk with
  | nil =>
    rw [advance]
    by_cases ended : cursor = text.length
    · subst ended
      rw [beq_self_eq_true]
      exact .single (.finish here)
    · rw [beq_false_of_ne ended]
      exact .single (.overhang here ended)
  | cons segment rest ih =>
    by_cases buried : (index, cursor) ∈ walk.dead
    · rw [advance_known buried]
      exact .single (.known here buried)
    · have behind := drop_succ_of_drop here
      cases segment with
      | literal needle =>
        by_cases stands : needle <+: text.drop cursor
        · rw [advance_literal buried stands]
          exact .head (.literal here buried stands) (ih behind)
        · rw [advance_mismatch buried stands]
          exact .single (.mismatch here buried stands)
      | parameter token =>
        cases rest with
        | nil =>
          rw [advance_last buried]
          exact .single (.last here buried)
        | cons following rest =>
          cases boundary : boundaryFrom text following cursor with
          | none =>
            rw [advance_blocked buried boundary]
            exact .single (.blocked here buried boundary)
          | some stop =>
            rw [advance_enter buried boundary]
            exact .head (.enter here buried boundary) (ih behind)

end Forward

/-- When going back finds no place that can end later, it leaves every place. -/
theorem run_backtrack_none {choices : List Choice} {dead : Std.HashSet (Nat × Nat)}
    (lost : backtrack text segments choices dead = none) :
    ∃ dead', Run text segments (.back ⟨choices, dead⟩) (.back ⟨[], dead'⟩) := by
  induction choices generalizing dead with
  | nil => exact ⟨dead, .refl⟩
  | cons choice outer ih =>
    rw [backtrack] at lost
    split at lost
    · contradiction
    · rename_i exhausted
      obtain ⟨dead', run⟩ := ih lost
      exact ⟨dead', .head (.leave exhausted) run⟩

/-- Going back leaves places up to one that can end later, and lets that one end later. -/
theorem run_backtrack_some {choices : List Choice} {dead : Std.HashSet (Nat × Nat)} {walk : Walk}
    (resumed : backtrack text segments choices dead = some walk) :
    ∃ choice outer dead' stop, Run text segments (.back ⟨choices, dead⟩)
      (.back ⟨choice :: outer, dead'⟩) ∧ choice.nextStop? text segments = some stop ∧
      walk = ⟨{ choice with stop } :: outer, dead'.insert (choice.index + 1, choice.stop)⟩ := by
  induction choices generalizing dead with
  | nil => contradiction
  | cons choice outer ih =>
    rw [backtrack] at resumed
    split at resumed
    · rename_i stop next
      obtain rfl := Option.some.inj resumed
      exact ⟨choice, outer, dead, stop, .refl, next, rfl⟩
    · rename_i exhausted
      obtain ⟨found, outer', dead', stop, run, next, same⟩ := ih resumed
      exact ⟨found, outer', dead', stop, .head (.leave exhausted) run, next, same⟩

end Stencil
