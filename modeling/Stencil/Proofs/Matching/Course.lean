import Stencil.Proofs.Matching.Bound

/-!
# The course of a search

A search goes from point to point, and each point decides the next one (`Move.unique`). At every
point what is remembered is hopeless, and the choices made spell, with the literals between them,
the text up to where the walk stands (`Point.Accounted`). A place that has been entered from a
position is on the stack of choices until the two are remembered together (`Walk.HasEntered`), and
so the place is never entered from there again (`enters_once`). `search_course` says this of all
points of a search, and that the search comes to its end: it walks forward no more often than there
are places to enter, positions to enter them from and positions to end them at.
-/
namespace Stencil

section Course

variable (text : Text) (segments : List Segment)

/-- The functions that search go from point to point by moves only. -/
structure MovesOnly : Prop where
  /-- Walking forward goes to the end of the text or to a dead end. -/
  forward (index cursor : Nat) (walk : Walk) : Run text segments (.forward index cursor walk)
    (.afterAdvance (advance text (segments.drop index) index cursor walk))
  /-- Going back goes to where the walk begins anew, behind the last choice. -/
  back {choices outer : List Choice} {dead : Std.HashSet (Nat × Nat)} {next : Walk}
    {choice : Choice} (resumed : backtrack text segments choices dead = some next)
    (inner : next.choices = choice :: outer) : Run text segments (.back ⟨choices, dead⟩)
      (.forward (choice.index + 1) choice.stop next)
  /-- Going back for good leaves every place. -/
  lost {choices : List Choice} {dead : Std.HashSet (Nat × Nat)}
    (exhausted : backtrack text segments choices dead = none) :
    ∃ dead', Run text segments (.back ⟨choices, dead⟩) (.back ⟨[], dead'⟩)

/-- A search comes to a point. -/
abbrev Point.Visited (point : Point) : Prop := Run text segments (.forward 0 0 .start) point

/-- The choices, the last one first, spell with the literals between them the text up to a position,
and they lead up to a segment. -/
def Spells (choices : List Choice) (index cursor : Nat) : Prop :=
  fill? (segments.take index) (choices.reverse.map (Choice.value text)) = some (text.take cursor)

/-- The choices made at a point lead to where the walk stands. -/
def Point.Stands : Point → Prop
  | forward index cursor walk => Spells text segments walk.choices index cursor ∧
      ∀ choice ∈ walk.choices, choice.index < index
  | back walk => ∃ index cursor, Spells text segments walk.choices index cursor ∧
      Hopeless text segments index cursor
  | found walk => Spells text segments walk.choices segments.length text.length

/-- What holds at every point of a search. -/
structure Point.Accounted (point : Point) : Prop where
  /-- From a segment and a position that are remembered together, no filling of the segments left
  spells the text left. -/
  hopeless : ∀ place ∈ point.walk.dead, Unfillable (segments.drop place.1) (text.drop place.2)
  /-- Later choices are made at later places. -/
  increasing : point.walk.choices.Pairwise fun inner outer => outer.index < inner.index
  /-- Every choice begins where the choices before it, with the literals between them, end. -/
  linked : ∀ choice outer, choice :: outer <:+ point.walk.choices →
    Spells text segments outer choice.index choice.start ∧
      Spells text segments (choice :: outer) (choice.index + 1) choice.stop
  /-- The last choice, with the literals behind it, leads to where the walk stands. -/
  stands : point.Stands text segments

end Course

variable {text : Text} {segments : List Segment}

/-- The functions that search go from point to point by moves only. -/
theorem movesOnly (text : Text) (segments : List Segment) : MovesOnly text segments where
  forward _ _ _ := run_advance rfl
  back resumed inner := by
    obtain ⟨choice, outer, dead, stop, back, later, rfl⟩ := run_backtrack_some resumed
    obtain ⟨rfl, rfl⟩ := List.cons.inj inner
    exact back.tail (.resume later)
  lost exhausted := run_backtrack_none exhausted

/-- What is spelled before literals is spelled, with them, behind them. -/
theorem Literals.fill?_take {index cursor index' cursor' : Nat} {values : List Text}
    (literals : Literals text segments index cursor index' cursor')
    (before : fill? (segments.take index) values = some (text.take cursor)) :
    fill? (segments.take index') values = some (text.take cursor') := by
  induction literals with
  | refl => exact before
  | @step index' cursor' needle rest literals here stands ih =>
    have literal : fill? [.literal needle] [] = some needle :=
      fill?_literal_eq_some.mpr ⟨[], rfl, List.append_nil needle⟩
    have spelled := fill?_append ih literal
    rw [List.append_nil] at spelled
    rw [take_succ_of_drop here, List.take_add, ← List.prefix_iff_eq_take.mp stands]
    exact spelled

/-- A choice takes the text between its beginning and its end. -/
theorem Choice.Fits.take_stop {choice : Choice} (fits : choice.Fits text segments) :
    text.take choice.stop = text.take choice.start ++ choice.value text := by
  rw [Choice.value, ← List.take_add, Nat.add_sub_cancel' fits.ordered]

namespace Passed

variable {choices : List Choice} {index cursor : Nat}

/-- The choices that lead to a segment and a position spell the text up to there. -/
theorem spells (passed : Passed text segments choices index cursor) :
    Spells text segments choices index cursor := by
  induction choices generalizing index cursor with
  | nil => exact Literals.fill?_take passed rfl
  | cons choice outer ih =>
    obtain ⟨before, fits, literals⟩ := passed
    obtain ⟨token, rest, here⟩ := fits.place
    refine literals.fill?_take ?_
    have place : fill? [.parameter token] [choice.value text] = some (choice.value text) :=
      fill?_parameter_eq_some.mpr ⟨_, [], [], rfl, rfl, List.append_nil _⟩
    rw [take_succ_of_drop here, fits.take_stop, List.reverse_cons, List.map_append]
    exact fill?_append (ih before) place

/-- Later choices are made at later places. -/
theorem increasing (passed : Passed text segments choices index cursor) :
    choices.Pairwise fun inner outer => outer.index < inner.index := by
  induction choices generalizing index cursor with
  | nil => exact .nil
  | cons choice outer ih => exact .cons passed.1.index_lt (ih passed.1)

/-- The choices before a choice lead to its place. -/
theorem of_suffix (passed : Passed text segments choices index cursor) {choice : Choice}
    {outer : List Choice} (suffix : choice :: outer <:+ choices) :
    Passed text segments outer choice.index choice.start ∧ choice.Fits text segments := by
  induction choices generalizing index cursor with
  | nil => exact absurd (List.suffix_nil.mp suffix) (List.cons_ne_nil _ _)
  | cons inner choices ih =>
    rcases List.suffix_cons_iff.mp suffix with same | suffix
    · obtain ⟨rfl, rfl⟩ := List.cons.inj same
      exact ⟨passed.1, passed.2.1⟩
    · exact ih passed.1 suffix

end Passed

namespace Point.Sound

variable {point : Point}

/-- At a point of a sound search, the walk is sound up to some segment and position. -/
theorem walk_sound (sound : point.Sound text segments) :
    ∃ index cursor, point.walk.Sound text segments index cursor := by
  cases point with
  | forward index cursor walk => exact ⟨index, cursor, sound⟩
  | back walk =>
    obtain ⟨index, cursor, sound, -⟩ := sound
    exact ⟨index, cursor, sound⟩
  | found walk =>
    obtain ⟨index, -, sound⟩ := sound
    exact ⟨index, text.length, sound⟩

/-- At a point of a sound search, the choices lead to where the walk stands. -/
theorem stands (sound : point.Sound text segments) : point.Stands text segments := by
  cases point with
  | forward index cursor walk => exact ⟨sound.passed.spells, sound.passed.index_lt⟩
  | back walk =>
    obtain ⟨index, cursor, sound, hopeless⟩ := sound
    exact ⟨index, cursor, sound.passed.spells, hopeless⟩
  | found walk =>
    obtain ⟨index, ended, sound⟩ := sound
    have spelled := sound.passed.spells
    rw [Spells, List.take_of_length_le (List.drop_eq_nil_iff.mp ended)] at spelled
    rw [Stands, Spells, List.take_length]
    exact spelled

/-- A sound search can account for where it stands. -/
theorem accounted (sound : point.Sound text segments) : point.Accounted text segments := by
  obtain ⟨index, cursor, walk_sound⟩ := sound.walk_sound
  refine ⟨walk_sound.hopeless, walk_sound.passed.increasing, fun choice outer suffix => ?_,
    sound.stands⟩
  obtain ⟨before, fits⟩ := walk_sound.passed.of_suffix suffix
  have chosen : Passed text segments (choice :: outer) (choice.index + 1) choice.stop :=
    ⟨before, fits, .refl⟩
  exact ⟨before.spells, chosen.spells⟩

end Point.Sound

/-- A place has been entered from a position: it stands there still, or the two are remembered
together. -/
def Walk.HasEntered (walk : Walk) (index start : Nat) : Prop :=
  (index, start) ∈ walk.dead ∨ ∃ choice ∈ walk.choices, choice.index = index ∧ choice.start = start

/-- A place is entered from a position between two points: it is put on the stack of choices. -/
def Point.Enters (here next : Point) (index start : Nat) : Prop :=
  ∃ stop, next.walk.choices = ⟨index, start, stop⟩ :: here.walk.choices

section Entering

variable {here next later last point : Point} {index start : Nat}

/-- What has been entered stays so. -/
theorem Walk.Keeps.hasEntered {earlier later : Walk} (keeps : earlier.Keeps later)
    (entered : earlier.HasEntered index start) : later.HasEntered index start := by
  rcases entered with buried | ⟨choice, standing, rfl, rfl⟩
  · exact .inl (keeps.remembered _ buried)
  · rcases keeps.standing choice standing with buried | ⟨choice', standing', same, same', -⟩
    · exact .inl buried
    · exact .inr ⟨choice', standing', same, same'⟩

/-- What is entered has been entered. -/
theorem Point.Enters.hasEntered (enters : here.Enters next index start) :
    next.walk.HasEntered index start := by
  obtain ⟨stop, pushed⟩ := enters
  exact .inr ⟨_, pushed ▸ List.mem_cons_self, rfl, rfl⟩

/-- A walk stands before the places that it has not entered yet. -/
theorem Walk.Sound.not_hasEntered {walk : Walk} {cursor : Nat}
    (sound : walk.Sound text segments index cursor) (unburied : (index, start) ∉ walk.dead) :
    ¬ walk.HasEntered index start := by
  rintro (buried | ⟨choice, standing, same, -⟩)
  · exact unburied buried
  · have := sound.passed.index_lt choice standing
    omega

/-- A place is entered only where it has not been entered before. -/
theorem Move.not_hasEntered (move : Move text segments here next)
    (sound : here.Sound text segments) (enters : here.Enters next index start) :
    ¬ here.walk.HasEntered index start := by
  obtain ⟨stop, pushed⟩ := enters
  cases move with
  | last at_end unburied | enter at_place unburied boundary =>
    obtain ⟨rfl, rfl, -⟩ := Choice.mk.inj (List.cons.inj pushed).1
    exact Walk.Sound.not_hasEntered sound unburied
  | finish | overhang | known | literal | mismatch | blocked | resume | leave =>
    -- No other move makes the stack of choices longer.
    have longer := congrArg List.length pushed
    simp only [Point.walk, Walk.bury, List.length_cons] at longer
    omega

/-- A place that is entered from a position is never entered from there again. -/
theorem enters_once (sound : here.Sound text segments) (move : Move text segments here next)
    (enters : here.Enters next index start) (run : Run text segments next later)
    (move' : Move text segments later last) : ¬ later.Enters last index start := by
  intro again
  have entered := run.keeps.hasEntered enters.hasEntered
  exact move'.not_hasEntered (Run.sound run (move.sound sound)) again entered

/-- When a search is over, no move is left. -/
theorem Point.Ends.no_move {result : Option (List Choice)} (ends : last.Ends result) :
    ¬ Move text segments last next := by
  intro move
  cases ends <;> cases move

/-- Every run from a point leads on to where the search from that point is over. -/
theorem Point.Ends.run {result : Option (List Choice)} (ends : last.Ends result)
    (run : Run text segments here last) (before : Run text segments here point) :
    Run text segments point last := by
  have unique : Relator.RightUnique (Move text segments) := fun _ _ _ => Move.unique
  rcases Relation.ReflTransGen.total_of_right_unique unique run before with beyond | onward
  · rcases Relation.ReflTransGen.cases_head beyond with rfl | ⟨next, move, -⟩
    · exact .refl
    · exact absurd move ends.no_move
  · exact onward

end Entering

/-- The course of a search, which goes from point to point by moves only. At every point that a
search comes to, what is remembered is hopeless, and the choices made, at places one behind the
other, spell with the literals between them exactly the text up to where the walk stands. No place
is entered twice from one position. The search comes to its only end, at which matching reads off
its result, and it has then walked forward at most once more than there are ways to choose a place,
a beginning and an end; every point that it comes to lies on the way to that end. -/
theorem search_course (segments : List Segment) (text : Text) :
    MovesOnly text segments ∧
      (∀ point : Point, point.Visited text segments → point.Accounted text segments) ∧
      (∀ (here next later last : Point) (index start : Nat), here.Visited text segments →
        Move text segments here next → here.Enters next index start →
        Run text segments next later → Move text segments later last →
        ¬ later.Enters last index start) ∧
      ∃ (calls : Nat) (result : Option (List Choice)) (last : Point),
        Searched text segments 0 0 .start calls result ∧
          (∀ calls' result', Searched text segments 0 0 .start calls' result' →
            calls' = calls ∧ result' = result) ∧
          calls ≤ 1 + (parameterTokens segments).length * (text.length + 1) ^ 2 ∧
          matchSegments segments text = result.map (List.map (Choice.value text)) ∧
          last.Ends result ∧
          ∀ point : Point, point.Visited text segments → Run text segments point last := by
  have sound : (Point.forward 0 0 .start).Sound text segments := Walk.Sound.start
  refine ⟨movesOnly text segments, fun point visited => (Run.sound visited sound).accounted,
    fun here next later last index start visited move enters run move' =>
      enters_once (Run.sound visited sound) move enters run move', ?_⟩
  have enough := card_pending_start text segments
  obtain ⟨calls, few, searched⟩ := searched_search Walk.Sound.start enough
  obtain ⟨last, ends, run⟩ := searched.run
  refine ⟨calls, _, last, searched, fun _ _ => searched.unique, ?_, rfl, ends,
    fun point visited => ends.run run visited⟩
  rw [searchBound] at enough
  rw [pow_two]
  omega

end Stencil
