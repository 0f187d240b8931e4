import Mathlib.Data.Finset.Prod
import Mathlib.Algebra.BigOperators.Intervals
import Stencil.Proofs.Matching.Walk

/-!
# The bound of a search

A place can begin and end at any position of the text. `Walk.pending` holds the ends that a search
may still come to: those of places that are not remembered as hopeless, and that are not passed
over by a choice that stands. What a walk has is kept by every move (`Walk.Keeps`), so that no move
adds to the pending ends, and going back to a place that can end later gives up one
(`Move.pending_ssubset`). `Searched` is a search without a bound, with the number of times that it
walks forward. A search with as much fuel as there are pending ends is such a search
(`searched_search`) and comes to its own end (`search_nearest`), and there are no more of them than
`searchBound` says (`card_pending_start`).
-/
namespace Stencil

/-- The ends of places: the index of the place, where it begins and where it ends. -/
def endings (text : Text) (segments : List Segment) : Finset (Nat × Nat × Nat) :=
  (Finset.range segments.length).filter (fun index => segments[index]?.any Segment.isParameter) ×ˢ
    Finset.range (text.length + 1) ×ˢ Finset.range (text.length + 1)

/-- The ends that a search may still come to. -/
def Walk.pending (text : Text) (segments : List Segment) (walk : Walk) :
    Finset (Nat × Nat × Nat) :=
  (endings text segments).filter fun ending =>
    (ending.1, ending.2.1) ∉ walk.dead ∧
      ∀ choice ∈ walk.choices, choice.index = ending.1 → choice.start = ending.2.1 →
        choice.stop ≤ ending.2.2

/-- There are as many places as there are indices of places. -/
theorem card_places (segments : List Segment) :
    ((Finset.range segments.length).filter
      (fun index => segments[index]?.any Segment.isParameter)).card =
        (parameterTokens segments).length := by
  induction segments with
  | nil => rfl
  | cons segment rest ih =>
    rw [Finset.card_filter] at ih ⊢
    rw [List.length_cons, Finset.sum_range_succ']
    simp only [List.getElem?_cons_succ, List.getElem?_cons_zero, ih]
    cases segment with
    | literal needle => simp [Segment.isParameter]
    | parameter token => simp [Segment.isParameter]

/-- Each place has as many ends as there are pairs of positions. -/
theorem card_endings (text : Text) (segments : List Segment) :
    (endings text segments).card =
      (parameterTokens segments).length * ((text.length + 1) * (text.length + 1)) := by
  rw [endings, Finset.card_product, Finset.card_product, Finset.card_range, card_places]

/-- A search that has not begun has at most the ends of all places before it. -/
theorem card_pending_start (text : Text) (segments : List Segment) :
    (Walk.start.pending text segments).card < searchBound (parameterTokens segments).length
      text.length := by
  have few : (Walk.start.pending text segments).card ≤ (endings text segments).card :=
    Finset.card_le_card (Finset.filter_subset _ _)
  rw [card_endings] at few
  rw [searchBound]
  omega

variable {text : Text} {segments : List Segment}

/-- The end of a choice that stands is one of the ends of places. -/
theorem Choice.Fits.mem_endings {choice : Choice} (fits : choice.Fits text segments) :
    (choice.index, choice.start, choice.stop) ∈ endings text segments := by
  obtain ⟨token, rest, here⟩ := fits.place
  have place_at : segments[choice.index]? = some (.parameter token) := by
    rw [← List.head?_drop, here, List.head?_cons]
  have ordered := fits.ordered
  have inside := fits.inside
  obtain ⟨within, -⟩ := List.getElem?_eq_some_iff.mp place_at
  simp only [endings, Finset.mem_product, Finset.mem_filter, Finset.mem_range, place_at,
    Option.any_some, Segment.isParameter, and_true]
  omega

/-- A later walk keeps what an earlier one has: what is remembered stays so, and every choice still
stands, with this end or a later one, or is remembered. -/
structure Walk.Keeps (earlier later : Walk) : Prop where
  /-- What is remembered stays so. -/
  remembered : ∀ place ∈ earlier.dead, place ∈ later.dead
  /-- Every choice still stands or is remembered. -/
  standing : ∀ choice ∈ earlier.choices, (choice.index, choice.start) ∈ later.dead ∨
    ∃ choice' ∈ later.choices, choice'.index = choice.index ∧ choice'.start = choice.start ∧
      choice.stop ≤ choice'.stop

namespace Walk.Keeps

variable {earlier between later : Walk}

/-- A walk keeps what it has. -/
theorem refl (walk : Walk) : walk.Keeps walk where
  remembered _ buried := buried
  standing choice standing := .inr ⟨choice, standing, rfl, rfl, Nat.le_refl _⟩

/-- What is kept twice is kept. -/
theorem trans (first : earlier.Keeps between) (second : between.Keeps later) :
    earlier.Keeps later where
  remembered place buried := second.remembered place (first.remembered place buried)
  standing choice standing := by
    rcases first.standing choice standing with buried | ⟨choice', standing', index, start, stop⟩
    · exact .inl (second.remembered _ buried)
    · rw [← index, ← start]
      rcases second.standing choice' standing' with buried | ⟨last, among, index', start', stop'⟩
      · exact .inl buried
      · exact .inr ⟨last, among, index', start', Nat.le_trans stop stop'⟩

/-- Nothing is added to the pending ends. -/
theorem pending_subset (keeps : earlier.Keeps later) :
    later.pending text segments ⊆ earlier.pending text segments := by
  intro ending member
  obtain ⟨possible, unburied, after⟩ := Finset.mem_filter.mp member
  refine Finset.mem_filter.mpr
    ⟨possible, fun buried => unburied (keeps.remembered _ buried), ?_⟩
  intro choice standing same_index same_start
  rcases keeps.standing choice standing with
    buried | ⟨choice', standing', index_eq, start_eq, stop_le⟩
  · rw [same_index, same_start] at buried
    exact absurd buried unburied
  · have := after choice' standing' (index_eq.trans same_index) (start_eq.trans same_start)
    omega

end Walk.Keeps

/-- The next end of a place is a later one. -/
theorem Choice.stop_lt_of_nextStop? {choice : Choice} {stop : Nat}
    (next : choice.nextStop? text segments = some stop) : choice.stop < stop := by
  obtain ⟨following, -, boundary⟩ := Option.bind_eq_some_iff.mp next
  exact (boundaryFrom_nearest boundary).1

/-- Every move of a search keeps what the walk has. -/
theorem Move.keeps {here next : Point} (move : Move text segments here next) :
    here.walk.Keeps next.walk := by
  cases move with
  | finish | overhang | known | literal => exact .refl _
  | mismatch | blocked =>
    exact ⟨fun _ buried => Std.HashSet.mem_insert.mpr (.inr buried),
      fun choice standing => .inr ⟨choice, standing, rfl, rfl, Nat.le_refl _⟩⟩
  | last | enter =>
    exact ⟨fun _ buried => buried, fun choice standing =>
      .inr ⟨choice, List.mem_cons_of_mem _ standing, rfl, rfl, Nat.le_refl _⟩⟩
  | @resume choice outer dead stop next =>
    refine ⟨fun _ buried => Std.HashSet.mem_insert.mpr (.inr buried),
      fun other standing => .inr ?_⟩
    rcases List.mem_cons.mp standing with rfl | standing
    · exact ⟨_, List.mem_cons_self, rfl, rfl, Nat.le_of_lt (other.stop_lt_of_nextStop? next)⟩
    · exact ⟨other, List.mem_cons_of_mem _ standing, rfl, rfl, Nat.le_refl _⟩
  | @leave choice outer dead exhausted =>
    refine ⟨fun _ buried => Std.HashSet.mem_insert.mpr
      (.inr (Std.HashSet.mem_insert.mpr (.inr buried))), fun other standing => ?_⟩
    rcases List.mem_cons.mp standing with rfl | standing
    · exact .inl (Std.HashSet.mem_insert.mpr (.inl (beq_self_eq_true _)))
    · exact .inr ⟨other, standing, rfl, rfl, Nat.le_refl _⟩

/-- Every run keeps what the walk has. -/
theorem Run.keeps {here there : Point} (run : Run text segments here there) :
    here.walk.Keeps there.walk := by
  induction run with
  | refl => exact .refl _
  | tail before move ih => exact ih.trans move.keeps

/-- Going back to a place that can end later gives up the end that it had. -/
theorem Move.pending_ssubset {choice : Choice} {outer : List Choice}
    {dead : Std.HashSet (Nat × Nat)} {stop : Nat}
    (next : choice.nextStop? text segments = some stop)
    (sound : (Point.back ⟨choice :: outer, dead⟩).Sound text segments) :
    Walk.pending text segments
        ⟨{ choice with stop } :: outer, dead.insert (choice.index + 1, choice.stop)⟩ ⊂
      Walk.pending text segments ⟨choice :: outer, dead⟩ := by
  obtain ⟨index, cursor, sound, -⟩ := sound
  obtain ⟨before, fits, -⟩ := sound.passed
  refine Finset.ssubset_iff_subset_ne.mpr ⟨(Move.resume next).keeps.pending_subset, fun same => ?_⟩
  have pending : (choice.index, choice.start, choice.stop) ∈
      Walk.pending text segments ⟨choice :: outer, dead⟩ := by
    refine Finset.mem_filter.mpr ⟨fits.mem_endings, sound.unburied choice List.mem_cons_self, ?_⟩
    intro other standing same_index same_start
    rcases List.mem_cons.mp standing with rfl | standing
    · exact Nat.le_refl _
    · have := before.index_lt other standing
      omega
  rw [← same] at pending
  have kept := (Finset.mem_filter.mp pending).2.2 _ List.mem_cons_self rfl rfl
  have later := choice.stop_lt_of_nextStop? next
  exact absurd kept (Nat.not_le_of_lt later)

/-- A search that goes on as long as it can, from a segment and a position: how often it walks
forward, and what it finds. -/
inductive Searched (text : Text) (segments : List Segment) :
    Nat → Nat → Walk → Nat → Option (List Choice) → Prop
  /-- The walk comes to the end of the text. -/
  | found {index cursor : Nat} {walk met : Walk}
      (matched : advance text (segments.drop index) index cursor walk = (true, met)) :
      Searched text segments index cursor walk 1 (some met.choices.reverse)
  /-- The walk meets a dead end, and no place can end later. -/
  | lost {index cursor : Nat} {walk met : Walk}
      (stuck : advance text (segments.drop index) index cursor walk = (false, met))
      (exhausted : backtrack text segments met.choices met.dead = none) :
      Searched text segments index cursor walk 1 none
  /-- The walk meets a dead end, and begins anew behind a place that can end later. -/
  | again {index cursor calls : Nat} {walk met next : Walk} {choice : Choice}
      {outer : List Choice} {result : Option (List Choice)}
      (stuck : advance text (segments.drop index) index cursor walk = (false, met))
      (resumed : backtrack text segments met.choices met.dead = some next)
      (inner : next.choices = choice :: outer)
      (onward : Searched text segments (choice.index + 1) choice.stop next calls result) :
      Searched text segments index cursor walk (calls + 1) result

/-- The points at which a search is over, with what it has found. -/
inductive Point.Ends : Point → Option (List Choice) → Prop
  /-- The text is matched to its end. -/
  | found (walk : Walk) : Ends (.found walk) (some walk.choices.reverse)
  /-- Every place is left. -/
  | lost (dead : Std.HashSet (Nat × Nat)) : Ends (.back ⟨[], dead⟩) none

section Calls

variable {index cursor : Nat} {walk met next : Walk}

/-- Walking forward is a run of moves, whatever it comes to. -/
theorem run_of_advance {matched : Bool}
    (advanced : advance text (segments.drop index) index cursor walk = (matched, met)) :
    Run text segments (.forward index cursor walk) (.afterAdvance (matched, met)) :=
  advanced ▸ run_advance rfl

/-- From a dead end, a search goes back to a place that can end later. -/
theorem run_again (stuck : advance text (segments.drop index) index cursor walk = (false, met))
    (resumed : backtrack text segments met.choices met.dead = some next) :
    ∃ choice outer dead stop, Run text segments (.forward index cursor walk)
      (.back ⟨choice :: outer, dead⟩) ∧ choice.nextStop? text segments = some stop ∧
      next = ⟨{ choice with stop } :: outer, dead.insert (choice.index + 1, choice.stop)⟩ := by
  obtain ⟨choice, outer, dead, stop, back, later, same⟩ := run_backtrack_some resumed
  exact ⟨choice, outer, dead, stop, (run_of_advance stuck).trans back, later, same⟩

/-- A search is a run of moves to a point at which it is over. -/
theorem Searched.run {calls : Nat} {result : Option (List Choice)}
    (searched : Searched text segments index cursor walk calls result) :
    ∃ last : Point, last.Ends result ∧ Run text segments (.forward index cursor walk) last := by
  induction searched with
  | found matched => exact ⟨_, .found _, run_of_advance matched⟩
  | lost stuck exhausted =>
    obtain ⟨dead, back⟩ := run_backtrack_none exhausted
    exact ⟨_, .lost dead, (run_of_advance stuck).trans back⟩
  | again stuck resumed inner onward ih =>
    obtain ⟨choice, outer, dead, stop, back, later, rfl⟩ := run_again stuck resumed
    obtain ⟨rfl, rfl⟩ := List.cons.inj inner
    obtain ⟨last, ends, run⟩ := ih
    exact ⟨last, ends, (back.tail (.resume later)).trans run⟩

/-- A search from a segment and a position ends in one way only. -/
theorem Searched.unique {calls calls' : Nat} {result result' : Option (List Choice)}
    (searched : Searched text segments index cursor walk calls result)
    (searched' : Searched text segments index cursor walk calls' result') :
    calls' = calls ∧ result' = result := by
  induction searched generalizing calls' result' with
  | found matched | lost stuck exhausted => cases searched' <;> simp_all
  | again stuck resumed inner onward ih =>
    cases searched' with
    | found matched | lost stuck' exhausted => simp_all
    | again stuck' resumed' inner' onward' =>
      obtain ⟨-, rfl⟩ := Prod.mk.inj (stuck.symm.trans stuck')
      obtain rfl := Option.some.inj (resumed.symm.trans resumed')
      obtain ⟨rfl, rfl⟩ := List.cons.inj (inner.symm.trans inner')
      obtain ⟨rfl, rfl⟩ := ih onward'
      exact ⟨rfl, rfl⟩

/-- The choices with which the text is matched make up the nearest filling. -/
theorem nearest_of_found (sound : (Point.found walk).Sound text segments) :
    Nearest segments text (walk.choices.reverse.map (Choice.value text)) := by
  obtain ⟨last, ended, sound⟩ := sound
  have at_end : Nearest (segments.drop last) (text.drop text.length) [] := by
    rw [ended, List.drop_length]
    exact .done
  simpa using sound.passed.nearest at_end

/-- When every place is left, there is no filling. -/
theorem unfillable_of_lost {dead : Std.HashSet (Nat × Nat)}
    (sound : (Point.back ⟨[], dead⟩).Sound text segments) : Unfillable segments text := by
  obtain ⟨index, cursor, sound, hopeless⟩ := sound
  exact Literals.hopeless sound.passed hopeless

/-- A search with fuel for all pending ends goes on as long as it can, and it walks forward at most
once more than there are pending ends. -/
theorem searched_search {fuel : Nat} (sound : walk.Sound text segments index cursor)
    (enough : (walk.pending text segments).card < fuel) :
    ∃ calls ≤ (walk.pending text segments).card + 1,
      Searched text segments index cursor walk calls
        (search text segments fuel index cursor walk) := by
  induction fuel generalizing index cursor walk with
  | zero => exact absurd enough (Nat.not_lt_zero _)
  | succ fuel ih =>
    rw [search]
    rcases advanced : advance text (segments.drop index) index cursor walk with ⟨matched, met⟩
    cases matched with
    | true => exact ⟨1, Nat.le_add_left _ _, .found advanced⟩
    | false =>
      dsimp only
      cases resumed : backtrack text segments met.choices met.dead with
      | none => exact ⟨1, Nat.le_add_left _ _, .lost advanced resumed⟩
      | some next =>
        obtain ⟨choice, outer, dead, stop, back, later, rfl⟩ := run_again advanced resumed
        have backward := Run.sound back sound
        have fewer := Finset.card_lt_card (Move.pending_ssubset later backward)
        have no_more : (Walk.pending text segments ⟨choice :: outer, dead⟩).card ≤
            (walk.pending text segments).card := Finset.card_le_card back.keeps.pending_subset
        obtain ⟨calls, few, onward⟩ := ih ((Move.resume later).sound backward) (by omega)
        exact ⟨calls + 1, by omega, .again advanced resumed rfl onward⟩

end Calls

/-- A search with fuel for all pending ends finds the nearest filling, or there is none. -/
theorem search_nearest {fuel index cursor : Nat} {walk : Walk}
    (sound : walk.Sound text segments index cursor)
    (enough : (walk.pending text segments).card < fuel) :
    match search text segments fuel index cursor walk with
    | some choices => Nearest segments text (choices.map (Choice.value text))
    | none => Unfillable segments text := by
  obtain ⟨calls, -, searched⟩ := searched_search sound enough
  obtain ⟨last, ends, run⟩ := searched.run
  have sound' := Run.sound run sound
  generalize search text segments fuel index cursor walk = result at ends ⊢
  cases ends with
  | found walk => exact nearest_of_found sound'
  | lost dead => exact unfillable_of_lost sound'

end Stencil
