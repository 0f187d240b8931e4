import Mathlib.Algebra.BigOperators.Group.List.Basic
import Mathlib.Data.List.Perm.Basic
import Stencil.Proofs.KeyPath.Operator
import Stencil.Proofs.Value.Number

/-!
# Totals of whole numbers

Where a path leads from the items of a collection to integers, the operators make of the collection
the number of the items, the sum of the integers, or the least or greatest of them, if there is one
(`extreme?`). For two lists put together, what they make is put together from what they make of
each, and for no collection does it depend on the order of the items (`resolvePath_totals`).
-/
namespace Stencil

/-! ### Least and greatest -/

/-- The one of two integers that a sign puts first. -/
def OrderSign.pick : OrderSign → Int → Int → Int
  | less => min
  | greater => max

/-- The one of some integers that a sign puts first, if there is one. -/
def extreme? (sign : OrderSign) (numbers : List Int) : Option Int :=
  (numbers.map some).foldl (Option.merge sign.pick) none

/-- An integer as a value, or the absent value. -/
def orNothing : Option Int → Value
  | some number => .int number
  | none => .nothing

section Extremes

variable {sign : OrderSign} {state : State} {classOf : Nat → Text}

/-- Which of two integers is picked does not depend on their order. -/
instance (sign : OrderSign) : Std.Commutative sign.pick where
  comm a b := by
    cases sign with
    | less => exact min_comm a b
    | greater => exact max_comm a b

/-- Which of three integers is picked does not depend on the order of the choices. -/
instance (sign : OrderSign) : Std.Associative sign.pick where
  assoc a b c := by
    cases sign with
    | less => exact min_assoc a b c
    | greater => exact max_assoc a b c

/-- The extreme of two lists is picked from the extremes of both. -/
theorem extreme?_append (first last : List Int) :
    extreme? sign (first ++ last) =
      Option.merge sign.pick (extreme? sign first) (extreme? sign last) := by
  have from_first : ∀ best : Option Int,
      (last.map some).foldl (Option.merge sign.pick) (Option.merge sign.pick best none) =
        Option.merge sign.pick best (extreme? sign last) := fun best => List.foldl_assoc
  have joined := from_first (extreme? sign first)
  rw [Option.merge_none_right] at joined
  rw [extreme?, List.map_append, List.foldl_append]
  exact joined

/-- The extreme of some integers does not depend on their order. -/
theorem extreme?_perm {numbers others : List Int} (permuted : numbers.Perm others) :
    extreme? sign numbers = extreme? sign others :=
  (permuted.map some).foldl_eq none

/-- Only no integers have no extreme. -/
theorem extreme?_eq_none {numbers : List Int} : extreme? sign numbers = none ↔ numbers = [] := by
  cases numbers with
  | nil => exact iff_of_true rfl rfl
  | cons number rest =>
    refine iff_of_false ?_ (List.cons_ne_nil _ _)
    rw [← List.singleton_append, extreme?_append]
    cases extreme? sign rest <;> exact nofun

/-- Integers stand in the order of a sign as values do. -/
theorem Value.ordered_int (classOf : Nat → Text) (sign : OrderSign) (a b : Int) :
    ∃ truth, Value.ordered classOf sign (.int a) (.int b) = .ok truth ∧
      (truth = true ↔ sign.Holds a b) := by
  obtain ⟨truth, ordered, holds⟩ :=
    Number.ordered_of_values (a := .int a) (b := .int b) sign rfl rfl
  refine ⟨truth, ?_, holds.trans ?_⟩
  · rw [Value.ordered]
    · exact ordered
    all_goals
      intros
      contradiction
  · cases sign with
    | less => exact ExtendedRat.ofRat_lt_ofRat.trans Int.cast_lt
    | greater => exact ExtendedRat.ofRat_lt_ofRat.trans Int.cast_lt

/-- An integer that a sign puts before the best one so far is picked. -/
theorem OrderSign.pick_of_holds {best number : Int} (before : sign.Holds number best) :
    sign.pick best number = number := by
  cases sign with
  | less => exact min_eq_right (le_of_lt before)
  | greater => exact max_eq_right (le_of_lt before)

/-- Of an integer that a sign does not put before the best one so far the best one is picked. -/
theorem OrderSign.pick_of_not_holds {best number : Int} (not_before : ¬ sign.Holds number best) :
    sign.pick best number = best := by
  cases sign with
  | less => exact min_eq_left (not_lt.mp not_before)
  | greater => exact max_eq_left (not_lt.mp not_before)

/-- The item found among integers is the extreme one. -/
theorem extremeFrom_ints (best : Int) (rest : List Int) :
    extremeFrom classOf sign (.int best) (rest.map .int) =
      .ok (orNothing ((rest.map some).foldl (Option.merge sign.pick) (some best))) := by
  induction rest generalizing best with
  | nil => rfl
  | cons number rest ih =>
    obtain ⟨truth, ordered, holds⟩ := Value.ordered_int classOf sign number best
    rw [List.map_cons, extremeFrom, ordered, List.map_cons, List.foldl_cons, Option.merge_some_some]
    cases truth with
    | true =>
      rw [OrderSign.pick_of_holds (holds.mp rfl)]
      exact ih number
    | false =>
      rw [OrderSign.pick_of_not_holds fun before => Bool.noConfusion (holds.mpr before)]
      exact ih best

/-- The operator that finds the item that a sign puts first. -/
def OrderSign.aggregate : OrderSign → Aggregate
  | less => .least
  | greater => .greatest

/-- The least or greatest of integers is the extreme one, or the absent value. -/
theorem State.aggregate_extreme (sign : OrderSign) (numbers : List Int) :
    state.aggregate (numbers.map .int) sign.aggregate = .ok (orNothing (extreme? sign numbers)) := by
  cases numbers with
  | nil => cases sign <;> rfl
  | cons number rest => cases sign <;> exact extremeFrom_ints number rest

end Extremes

/-! ### Sums -/

section Sums

variable {state : State} {classOf : Nat → Text}

/-- The sum of integers is their sum as a value. -/
theorem Value.sum_ints (numbers : List Int) :
    Value.sum classOf (numbers.map .int) = .ok (.int numbers.sum) := by
  have from_total : ∀ total : Int,
      (numbers.map Value.int).foldlM (Value.add classOf) (.int total) =
        .ok (.int (total + numbers.sum)) := by
    induction numbers with
    | nil => exact fun total => congrArg (fun sum => Except.ok (Value.int sum)) (add_zero total).symm
    | cons number rest ih =>
      intro total
      rw [List.sum_cons, ← add_assoc]
      exact ih (total + number)
  have whole := from_total 0
  rw [zero_add] at whole
  exact whole

/-- What an operator that adds integers up or compares them makes of them does not depend on their
order. -/
theorem State.aggregate_perm {numbers others : List Int} (permuted : numbers.Perm others)
    {operator : Aggregate} (totals : operator ∈ [Aggregate.sum, .average, .least, .greatest]) :
    state.aggregate (numbers.map .int) operator = state.aggregate (others.map .int) operator := by
  have sum : Value.sum state.classOf (numbers.map .int) =
      Value.sum state.classOf (others.map .int) := by
    rw [Value.sum_ints, Value.sum_ints, permuted.sum_eq]
  have extreme : ∀ sign : OrderSign, state.aggregate (numbers.map .int) sign.aggregate =
      state.aggregate (others.map .int) sign.aggregate := fun sign => by
    rw [State.aggregate_extreme, State.aggregate_extreme, extreme?_perm permuted]
  have lengths : (numbers.map Value.int).length = (others.map Value.int).length :=
    (permuted.map Value.int).length_eq
  have emptiness : (numbers.map Value.int).isEmpty = (others.map Value.int).isEmpty :=
    (permuted.map Value.int).isEmpty_eq
  simp only [List.mem_cons, List.not_mem_nil, or_false] at totals
  rcases totals with rfl | rfl | rfl | rfl
  · exact sum
  · rw [State.aggregate, State.aggregate, sum, lengths, emptiness]
  · exact extreme .less
  · exact extreme .greater

end Sums

/-! ### Paths -/

section Paths

variable {state : State} {value : Value} {items : List Value} {path name : Text}
  {number : Value → Int}

/-- The number of the items of a collection needs no path. -/
theorem State.resolvePath_count (held : value.items? = some items) :
    state.resolvePath value "@count" = .ok (.int items.length) := by
  have components : Text.splitOn "." "@count" = (["@count"] : List Text) := rfl
  have named : Aggregate.ofName? "count" = some .count := rfl
  have counted : state.follow ["@count"] value = .ok (.int items.length) := by
    show state.follow [('@' :: ("count" : Text))] value = _
    rw [State.follow, named, held]
  rw [State.resolvePath_eq_ok, components]
  exact ⟨by decide, counted⟩

/-- An operator before a path that leads from each item to an integer makes of a collection what it
makes of the integers. -/
theorem State.resolve_ints {operator : Aggregate} (named : Aggregate.ofName? name = some operator)
    (follows : operator ≠ .count) (held : value.items? = some items)
    (filled : [] ∉ Text.splitOn "." path)
    (each : ∀ item ∈ items, state.resolvePath item path = .ok (.int (number item))) :
    state.resolve value (operatorPath name path) =
      (state.aggregate ((items.map number).map .int) operator).mapError (operatorFailure operator name) := by
  refine State.resolve_operatorPath named follows held filled ?_
  rw [List.map_map]
  exact List.forall₂_map_right_iff.mpr (List.forall₂_same.mpr each)

/-- Where it makes a value of the integers, the path leads to this value. -/
theorem State.resolvePath_ints {operator : Aggregate} {result : Value}
    (named : Aggregate.ofName? name = some operator) (follows : operator ≠ .count)
    (held : value.items? = some items) (filled : [] ∉ Text.splitOn "." path)
    (each : ∀ item ∈ items, state.resolvePath item path = .ok (.int (number item)))
    (computed : state.aggregate ((items.map number).map .int) operator = .ok result) :
    state.resolvePath value (operatorPath name path) = .ok result := by
  rw [State.resolvePath, State.resolve_ints named follows held filled each, computed]
  rfl

/-- The extreme of two lists put together is picked from those of each, which only an empty list
lacks. -/
theorem State.exists_extremes {first last : List Value} (sign : OrderSign)
    (named : Aggregate.ofName? name = some sign.aggregate) (filled : [] ∉ Text.splitOn "." path)
    (each : ∀ item ∈ first ++ last, state.resolvePath item path = .ok (.int (number item))) :
    ∃ a b : Option Int, (a = none ↔ first = []) ∧ (b = none ↔ last = []) ∧
      state.resolvePath (.list first) (operatorPath name path) = .ok (orNothing a) ∧
      state.resolvePath (.list last) (operatorPath name path) = .ok (orNothing b) ∧
      state.resolvePath (.list (first ++ last)) (operatorPath name path) =
        .ok (orNothing (Option.merge sign.pick a b)) := by
  have follows : sign.aggregate ≠ .count := by cases sign <;> decide
  have each_first : ∀ item ∈ first, state.resolvePath item path = .ok (.int (number item)) :=
    fun item member => each item (List.mem_append_left last member)
  have each_last : ∀ item ∈ last, state.resolvePath item path = .ok (.int (number item)) :=
    fun item member => each item (List.mem_append_right first member)
  refine ⟨extreme? sign (first.map number), extreme? sign (last.map number),
    extreme?_eq_none.trans List.map_eq_nil_iff, extreme?_eq_none.trans List.map_eq_nil_iff,
    ?_, ?_, ?_⟩
  · apply State.resolvePath_ints named follows rfl filled each_first
    exact State.aggregate_extreme sign (first.map number)
  · apply State.resolvePath_ints named follows rfl filled each_last
    exact State.aggregate_extreme sign (last.map number)
  · apply State.resolvePath_ints named follows rfl filled each
    rw [State.aggregate_extreme, List.map_append, extreme?_append]

/-- From collections of the same items in any orders, an operator that computes leads to the same
outcome. -/
theorem State.resolvePath_perm {other : Value} {permuted : List Value} {operator : Aggregate}
    (named : Aggregate.ofName? name = some operator)
    (totals : operator ∈ [Aggregate.sum, .average, .least, .greatest])
    (held : value.items? = some items) (held' : other.items? = some permuted)
    (same_items : items.Perm permuted) (filled : [] ∉ Text.splitOn "." path)
    (each : ∀ item ∈ items, state.resolvePath item path = .ok (.int (number item))) :
    state.resolvePath value (operatorPath name path) =
      state.resolvePath other (operatorPath name path) := by
  have follows : operator ≠ .count := by
    rintro rfl
    simp at totals
  have each' : ∀ item ∈ permuted, state.resolvePath item path = .ok (.int (number item)) :=
    fun item member => each item (same_items.mem_iff.mpr member)
  rw [State.resolvePath, State.resolvePath, State.resolve_ints named follows held filled each,
    State.resolve_ints named follows held' filled each',
    State.aggregate_perm (same_items.map number) totals]

end Paths

/-- Where a path leads from every item of two lists to an integer, the number of the items and their
sum are, for both lists together, the sums of those for each; all values found are those of the one
followed by those of the other; and the least and the greatest are picked from those of each, which
only an empty list lacks. From collections of the same items in another order all these operators
lead to the same outcome. -/
theorem resolvePath_totals (state : State) (first last : List Value) (path : Text)
    (filled : [] ∉ Text.splitOn "." path)
    (ints : ∀ item ∈ first ++ last, ∃ number : Int,
      state.resolvePath item path = .ok (.int number)) :
    (∃ a b : Int, state.resolvePath (.list first) "@count" = .ok (.int a) ∧
      state.resolvePath (.list last) "@count" = .ok (.int b) ∧
      state.resolvePath (.list (first ++ last)) "@count" = .ok (.int (a + b))) ∧
    (∃ a b : Int, state.resolvePath (.list first) (operatorPath "sum" path) = .ok (.int a) ∧
      state.resolvePath (.list last) (operatorPath "sum" path) = .ok (.int b) ∧
      state.resolvePath (.list (first ++ last)) (operatorPath "sum" path) = .ok (.int (a + b))) ∧
    (∃ as bs : List Value,
      state.resolvePath (.list first) (operatorPath "unionOfObjects" path) = .ok (.list as) ∧
      state.resolvePath (.list last) (operatorPath "unionOfObjects" path) = .ok (.list bs) ∧
      state.resolvePath (.list (first ++ last)) (operatorPath "unionOfObjects" path) =
        .ok (.list (as ++ bs))) ∧
    (∃ a b : Option Int, (a = none ↔ first = []) ∧ (b = none ↔ last = []) ∧
      state.resolvePath (.list first) (operatorPath "min" path) = .ok (orNothing a) ∧
      state.resolvePath (.list last) (operatorPath "min" path) = .ok (orNothing b) ∧
      state.resolvePath (.list (first ++ last)) (operatorPath "min" path) =
        .ok (orNothing (Option.merge min a b))) ∧
    (∃ a b : Option Int, (a = none ↔ first = []) ∧ (b = none ↔ last = []) ∧
      state.resolvePath (.list first) (operatorPath "max" path) = .ok (orNothing a) ∧
      state.resolvePath (.list last) (operatorPath "max" path) = .ok (orNothing b) ∧
      state.resolvePath (.list (first ++ last)) (operatorPath "max" path) =
        .ok (orNothing (Option.merge max a b))) ∧
    ∀ (one other : Value) (permuted : List Value), one.items? = some first →
      other.items? = some permuted → first.Perm permuted →
      state.resolvePath one "@count" = state.resolvePath other "@count" ∧
      ∀ name ∈ (["sum", "avg", "min", "max"] : List Text),
        state.resolvePath one (operatorPath name path) =
          state.resolvePath other (operatorPath name path) := by
  choose! number each using ints
  have each_first : ∀ item ∈ first, state.resolvePath item path = .ok (.int (number item)) :=
    fun item member => each item (List.mem_append_left last member)
  have each_last : ∀ item ∈ last, state.resolvePath item path = .ok (.int (number item)) :=
    fun item member => each item (List.mem_append_right first member)
  refine ⟨?_, ?_, ?_, State.exists_extremes .less rfl filled each,
    State.exists_extremes .greater rfl filled each, ?_⟩
  · refine ⟨first.length, last.length, State.resolvePath_count rfl, State.resolvePath_count rfl, ?_⟩
    rw [State.resolvePath_count rfl, List.length_append, Nat.cast_add]
  · have named : Aggregate.ofName? "sum" = some .sum := rfl
    refine ⟨(first.map number).sum, (last.map number).sum, ?_, ?_, ?_⟩
    · exact State.resolvePath_ints named (by decide) rfl filled each_first (Value.sum_ints _)
    · exact State.resolvePath_ints named (by decide) rfl filled each_last (Value.sum_ints _)
    · rw [← List.sum_append, ← List.map_append]
      exact State.resolvePath_ints named (by decide) rfl filled each (Value.sum_ints _)
  · have named : Aggregate.ofName? "unionOfObjects" = some .union := rfl
    refine ⟨(first.map number).map .int, (last.map number).map .int, ?_, ?_, ?_⟩
    · exact State.resolvePath_ints named (by decide) rfl filled each_first rfl
    · exact State.resolvePath_ints named (by decide) rfl filled each_last rfl
    · rw [← List.map_append, ← List.map_append]
      exact State.resolvePath_ints named (by decide) rfl filled each rfl
  · intro one other permuted held held' same_items
    refine ⟨?_, fun name member => ?_⟩
    · rw [State.resolvePath_count held, State.resolvePath_count held', same_items.length_eq]
    · have named : ∃ operator ∈ [Aggregate.sum, .average, .least, .greatest],
          Aggregate.ofName? name = some operator := by
        simp only [List.mem_cons, List.not_mem_nil, or_false] at member
        rcases member with rfl | rfl | rfl | rfl
        · exact ⟨.sum, by decide, rfl⟩
        · exact ⟨.average, by decide, rfl⟩
        · exact ⟨.least, by decide, rfl⟩
        · exact ⟨.greatest, by decide, rfl⟩
      obtain ⟨operator, totals, named⟩ := named
      exact State.resolvePath_perm named totals held held' same_items filled each_first

/-- Lists of integers, of which an operator within the path makes their sums. -/
def sumsOf (lists : List (List Int)) : List Value :=
  lists.map fun numbers => holders (numbers.map .int)

/-- From each such list the inner path leads to the sum. -/
theorem sumsOf_lead (state : State) (lists : List (List Int)) :
    [] ∉ Text.splitOn "." "@sum.x" ∧
      ∀ item ∈ sumsOf lists, ∃ number : Int,
        state.resolvePath item "@sum.x" = .ok (.int number) := by
  have components : Text.splitOn "." "@sum.x" = (["@sum", "x"] : List Text) := rfl
  refine ⟨?_, fun item member => ?_⟩
  · rw [components]
    decide
  · obtain ⟨numbers, -, rfl⟩ := List.mem_map.mp member
    obtain ⟨items, held, filled, each⟩ := holders_lead state (numbers.map .int)
    have named : Aggregate.ofName? "sum" = some .sum := rfl
    have added : state.aggregate (numbers.map .int) .sum = .ok (.int numbers.sum) :=
      Value.sum_ints numbers
    have leads : state.resolvePath (holders (numbers.map .int)) (operatorPath "sum" "x") =
        .ok (.int numbers.sum) :=
      State.resolvePath_operatorPath named (by decide) held filled each added
    exact ⟨numbers.sum, leads⟩

/-- The sums of three lists put together, and their average from a set in another order. -/
theorem resolvePath_totals_of_sums :
    [] ∉ Text.splitOn "." "@sum.x" ∧
      (∀ item ∈ sumsOf [[1, 2], []] ++ sumsOf [[-4]], ∃ number : Int,
        State.resolvePath ⟨.empty, .empty⟩ item "@sum.x" = .ok (.int number)) ∧
      State.resolvePath ⟨.empty, .empty⟩ (.list (sumsOf [[1, 2], []] ++ sumsOf [[-4]]))
        "@sum.@sum.x" = .ok (.int (-1)) ∧
      (sumsOf [[1, 2], []]).Perm (sumsOf [[], [1, 2]]) ∧
      State.resolvePath ⟨.empty, .empty⟩ (.list (sumsOf [[1, 2], []])) "@avg.@sum.x" =
        State.resolvePath ⟨.empty, .empty⟩ (.set (sumsOf [[], [1, 2]])) "@avg.@sum.x" := by
  obtain ⟨filled, -⟩ := sumsOf_lead ⟨.empty, .empty⟩ []
  have ints : ∀ item ∈ sumsOf [[1, 2], []] ++ sumsOf [[-4]], ∃ number : Int,
      State.resolvePath ⟨.empty, .empty⟩ item "@sum.x" = .ok (.int number) :=
    (sumsOf_lead ⟨.empty, .empty⟩ [[1, 2], [], [-4]]).2
  have swapped : (sumsOf [[1, 2], []]).Perm (sumsOf [[], [1, 2]]) := .swap _ _ _
  obtain ⟨-, ⟨a, b, first, last, whole⟩, -, -, -, any_order⟩ :=
    resolvePath_totals ⟨.empty, .empty⟩ (sumsOf [[1, 2], []]) (sumsOf [[-4]]) "@sum.x" filled ints
  have components : Text.splitOn "." (operatorPath "sum" "@sum.x") =
      (["@sum", "@sum", "x"] : List Text) := rfl
  have three : State.resolvePath ⟨.empty, .empty⟩ (.list (sumsOf [[1, 2], []]))
      (operatorPath "sum" "@sum.x") = .ok (.int 3) := by
    rw [State.resolvePath_eq_ok, components]
    exact ⟨by decide, rfl⟩
  have minus_four : State.resolvePath ⟨.empty, .empty⟩ (.list (sumsOf [[-4]]))
      (operatorPath "sum" "@sum.x") = .ok (.int (-4)) := by
    rw [State.resolvePath_eq_ok, components]
    exact ⟨by decide, rfl⟩
  obtain rfl : a = 3 := Value.int.inj (Except.ok.inj (first.symm.trans three))
  obtain rfl : b = -4 := Value.int.inj (Except.ok.inj (last.symm.trans minus_four))
  obtain ⟨-, same⟩ :=
    any_order (.list (sumsOf [[1, 2], []])) (.set (sumsOf [[], [1, 2]])) _ rfl rfl swapped
  exact ⟨filled, ints, whole, swapped, same "avg" (by decide)⟩

end Stencil
