import Mathlib.Data.List.FinRange
import Stencil.Proofs.KeyPath.Formed
import Stencil.Proofs.KeyPath.Operator

/-!
# The different values that a path leads to

`@distinctUnionOfObjects` compares a value with those kept so far only, so a value is kept exactly if
it is not the same as an earlier one that is kept, nor equal to it (`KeepsFirst`). Where being the same
or equal is transitive, no earlier value at all is (`KeepsFirst.mem_iff_of_trans`); on values whose
objects have no comparison of their own it is being alike (`State.same_decides`).
-/
namespace Stencil

/-- The operator that collects the different values. -/
def distinctOperator : Text := "distinctUnionOfObjects"

/-- Of the positions seen, in order, those are kept that repeat none that is kept before. -/
structure KeepsFirst {count : Nat} (repeats : Fin count → Fin count → Prop)
    (seen kept : List (Fin count)) : Prop where
  /-- The positions are kept in order. -/
  ordered : kept.Pairwise (· < ·)
  /-- A position is kept exactly if it repeats none that is kept before. -/
  mem_iff : ∀ i, i ∈ kept ↔ i ∈ seen ∧ ∀ j ∈ kept, j < i → ¬ repeats j i

section Positions

variable {count : Nat} {repeats : Fin count → Fin count → Prop} {seen kept : List (Fin count)}
  {here : Fin count}

/-- Each position seen is kept, or repeats one that is kept before. -/
theorem KeepsFirst.exists_kept (keeps : KeepsFirst repeats seen kept) {i : Fin count}
    (among : i ∈ seen) : ∃ j ∈ kept, j ≤ i ∧ (j = i ∨ repeats j i) := by
  by_cases new : ∀ j ∈ kept, j < i → ¬ repeats j i
  · exact ⟨i, (keeps.mem_iff i).mpr ⟨among, new⟩, le_rfl, .inl rfl⟩
  · push Not at new
    obtain ⟨j, held, before, again⟩ := new
    exact ⟨j, held, before.le, .inr again⟩

/-- Where repeating is transitive, exactly those positions seen are kept that repeat no earlier one
that is seen. -/
theorem KeepsFirst.mem_iff_of_trans (keeps : KeepsFirst repeats seen kept)
    (trans : ∀ i j k, i < j → j < k → repeats i j → repeats j k → repeats i k) (i : Fin count) :
    i ∈ kept ↔ i ∈ seen ∧ ∀ j ∈ seen, j < i → ¬ repeats j i := by
  rw [keeps.mem_iff]
  refine and_congr_right fun _ => ⟨fun new j among before again => ?_, fun new j held => ?_⟩
  · obtain ⟨k, held, no_later, rfl | earlier⟩ := keeps.exists_kept among
    · exact new k held before again
    · rcases no_later.eq_or_lt with rfl | first
      · exact new k held before again
      · exact new k held (first.trans before) (trans k j i first before earlier again)
  · exact new j ((keeps.mem_iff j).mp held).1

/-- What is kept of the positions before one comes before it. -/
theorem KeepsFirst.lt_of_mem (keeps : KeepsFirst repeats seen kept)
    (earlier : ∀ j, j ∈ seen ↔ j < here) {j : Fin count} (held : j ∈ kept) : j < here :=
  (earlier j).mp ((keeps.mem_iff j).mp held).1

/-- A position is kept behind the earlier ones if it repeats none that is kept. -/
theorem KeepsFirst.keep (keeps : KeepsFirst repeats seen kept)
    (earlier : ∀ j, j ∈ seen ↔ j < here) (new : ∀ j ∈ kept, ¬ repeats j here) :
    KeepsFirst repeats (seen ++ [here]) (kept ++ [here]) where
  ordered := by
    refine List.pairwise_append.mpr ⟨keeps.ordered, List.pairwise_singleton _ _, ?_⟩
    intro i held j last
    obtain rfl := List.mem_singleton.mp last
    exact keeps.lt_of_mem earlier held
  mem_iff := by
    intro i
    simp only [List.mem_append, List.mem_singleton]
    constructor
    · rintro (held | rfl)
      · refine ⟨.inl ((keeps.mem_iff i).mp held).1, ?_⟩
        rintro j (other | rfl) before
        · exact ((keeps.mem_iff i).mp held).2 j other before
        · exact absurd before (keeps.lt_of_mem earlier held).not_gt
      · refine ⟨.inr rfl, ?_⟩
        rintro j (other | rfl) before
        · exact new j other
        · exact absurd before (lt_irrefl _)
    · rintro ⟨among | rfl, first⟩
      · exact .inl ((keeps.mem_iff i).mpr ⟨among, fun j held => first j (.inl held)⟩)
      · exact .inr rfl

/-- A position is passed over if it repeats one that is kept. -/
theorem KeepsFirst.pass (keeps : KeepsFirst repeats seen kept)
    (earlier : ∀ j, j ∈ seen ↔ j < here) (again : ∃ j ∈ kept, repeats j here) :
    KeepsFirst repeats (seen ++ [here]) kept where
  ordered := keeps.ordered
  mem_iff := by
    intro i
    rw [List.mem_append, List.mem_singleton, keeps.mem_iff]
    constructor
    · rintro ⟨among, first⟩
      exact ⟨.inl among, first⟩
    · rintro ⟨among | rfl, first⟩
      · exact ⟨among, first⟩
      · obtain ⟨j, held, repeated⟩ := again
        exact absurd repeated (first j held (keeps.lt_of_mem earlier held))

/-- A search by a test that does not fail does not fail. -/
theorem exists_holdsOfSome_eq_ok {α : Type} {test : α → Except Fault Bool} {items : List α}
    (tested : ∀ item ∈ items, ∃ truth, test item = .ok truth) :
    ∃ truth, holdsOfSome test items = .ok truth := by
  induction items with
  | nil => exact ⟨false, rfl⟩
  | cons item rest ih =>
    obtain ⟨⟨truth, here⟩, behind⟩ := List.forall_mem_cons.mp tested
    rw [holdsOfSome, here]
    cases truth with
    | true => exact ⟨true, rfl⟩
    | false => exact ih behind

/-- A position repeats another one if its value is the same as that of the other, or equal to it. -/
def Repeats {count : Nat} (state : State) (value : Fin count → Value) (j i : Fin count) : Prop :=
  state.same (value j) (value i) = .ok true

/-- What is done with one more value when the different ones are collected. -/
def distinctStep (state : State) (kept : List Value) (item : Value) : Except Fault (List Value) := do
  let found ← holdsOfSome (fun other => state.same other item) kept
  return if found then kept else kept ++ [item]

variable {state : State} {value : Fin count → Value}

/-- One more value is kept or passed over as its position is. -/
theorem KeepsFirst.step (keeps : KeepsFirst (Repeats state value) seen kept)
    (earlier : ∀ j, j ∈ seen ↔ j < here)
    (comparable : ∀ j < here, ∃ truth, state.same (value j) (value here) = .ok truth) :
    ∃ next, KeepsFirst (Repeats state value) (seen ++ [here]) next ∧
      distinctStep state (kept.map value) (value here) = .ok (next.map value) := by
  have tested : ∀ other ∈ kept.map value,
      ∃ truth, state.same other (value here) = .ok truth := by
    intro other member
    obtain ⟨j, held, rfl⟩ := List.mem_map.mp member
    exact comparable j (keeps.lt_of_mem earlier held)
  obtain ⟨found, searched⟩ := exists_holdsOfSome_eq_ok tested
  have decides : ∀ other ∈ kept.map value,
      Decides (state.same other (value here)) (state.same other (value here) = .ok true) := by
    intro other _ truth decided
    rw [decided, Except.ok.injEq]
  have found_iff : found = true ↔ ∃ j ∈ kept, Repeats state value j here := by
    rw [holdsOfSome_decides decides found searched]
    constructor
    · rintro ⟨other, member, again⟩
      obtain ⟨j, held, rfl⟩ := List.mem_map.mp member
      exact ⟨j, held, again⟩
    · rintro ⟨j, held, again⟩
      exact ⟨value j, List.mem_map_of_mem held, again⟩
  rw [distinctStep, searched]
  cases found with
  | true => exact ⟨kept, keeps.pass earlier (found_iff.mp rfl), rfl⟩
  | false =>
    have new : ∀ j ∈ kept, ¬ Repeats state value j here := fun j held again =>
      Bool.noConfusion (found_iff.mpr ⟨j, held, again⟩)
    refine ⟨kept ++ [here], keeps.keep earlier new, ?_⟩
    rw [List.map_append]
    rfl

/-- Values at all positions behind those seen are kept or passed over as their positions are. -/
theorem KeepsFirst.run
    (comparable : ∀ j i, j < i → ∃ truth, state.same (value j) (value i) = .ok truth)
    (keeps : KeepsFirst (Repeats state value) seen kept) (rest : List (Fin count))
    (all : seen ++ rest = List.finRange count) :
    ∃ last, KeepsFirst (Repeats state value) (List.finRange count) last ∧
      (rest.map value).foldlM (distinctStep state) (kept.map value) = .ok (last.map value) := by
  -- The positions seen are the ones before the first of the rest, as all are in order.
  induction rest generalizing seen kept with
  | nil =>
    rw [List.append_nil] at all
    exact ⟨kept, all ▸ keeps, rfl⟩
  | cons here rest ih =>
    have ordered : (seen ++ here :: rest).Pairwise (· < ·) := all ▸ List.pairwise_lt_finRange count
    obtain ⟨-, from_here, apart⟩ := List.pairwise_append.mp ordered
    have earlier : ∀ j, j ∈ seen ↔ j < here := by
      intro j
      refine ⟨fun member => apart j member here List.mem_cons_self, fun before => ?_⟩
      have everywhere : j ∈ seen ++ here :: rest := all ▸ List.mem_finRange j
      rcases List.mem_append.mp everywhere with member | later
      · exact member
      · rcases List.mem_cons.mp later with rfl | behind
        · exact absurd before (lt_irrefl _)
        · exact absurd ((List.pairwise_cons.mp from_here).1 j behind) before.not_gt
    obtain ⟨next, keeps_next, stepped⟩ := keeps.step earlier fun j before => comparable j here before
    obtain ⟨last, keeps_last, run⟩ := ih keeps_next (by rw [List.append_assoc]; exact all)
    refine ⟨last, keeps_last, ?_⟩
    rw [List.map_cons, List.foldlM_cons, stepped]
    exact run

end Positions

/-- Of values that are compared without a fault, exactly those are kept that repeat none that is kept
before. -/
theorem KeepsFirst.distinctItems {state : State} {items : List Value}
    (comparable : items.Pairwise fun a b => ∃ truth, state.same a b = .ok truth) :
    ∃ kept, KeepsFirst (Repeats state items.get) (List.finRange items.length) kept ∧
      state.distinctItems items = .ok (kept.map items.get) := by
  have nothing : KeepsFirst (Repeats state items.get) [] [] :=
    ⟨.nil, fun i => iff_of_false List.not_mem_nil fun both => List.not_mem_nil both.1⟩
  have comparable_at : ∀ j i : Fin items.length, j < i →
      ∃ truth, state.same (items.get j) (items.get i) = .ok truth := fun j i before =>
    List.pairwise_iff_getElem.mp comparable j i j.isLt i.isLt before
  obtain ⟨last, keeps, run⟩ := nothing.run comparable_at (List.finRange items.length) rfl
  rw [List.map_get_finRange] at run
  exact ⟨last, keeps, run⟩

/-! ### Objects without a comparison of their own -/

/-- The class of an object says nothing about what the object is equal to. -/
def State.Plain (state : State) (value : Value) : Prop :=
  state.special? value comparisonName = none

section Plain

variable {state : State} {a b : Value}

/-- A plain object decides nothing about what it is equal to. -/
theorem State.Plain.decideEqual_eq (plain : state.Plain a) (other : Value) :
    state.decideEqual a other = .ok none := by
  rw [State.decideEqual, show state.special? a comparisonName = none from plain]

/-- Plain objects are not equal to each other. -/
theorem State.Plain.objectTest_eq (plain : state.Plain a) (plain' : state.Plain b) :
    state.objectTest a b = .ok false := by
  unfold State.objectTest
  cases state.isNarrower b a with
  | true =>
    change (state.decideEqual b a >>= _) = _
    rw [plain'.decideEqual_eq]
    change (state.decideEqual a b >>= _) = _
    rw [plain.decideEqual_eq]
    rfl
  | false =>
    change (state.decideEqual a b >>= _) = _
    rw [plain.decideEqual_eq]
    change (state.decideEqual b a >>= _) = _
    rw [plain'.decideEqual_eq]
    rfl

/-- The comparison of two formed values whose objects are plain decides whether they are alike. -/
theorem State.same_decides (regular : a.Regular state.Plain) (regular' : b.Regular state.Plain) :
    Decides (state.same a b) (a.Alike b) :=
  Value.sameBy_decides (fun _ _ plain plain' => plain.objectTest_eq plain') regular regular'

/-- Two such values that are compared without a fault are the same or equal exactly if they are
alike. -/
theorem State.same_eq_ok_true_iff (regular : a.Regular state.Plain)
    (regular' : b.Regular state.Plain) (comparable : ∃ truth, state.same a b = .ok truth) :
    state.same a b = .ok true ↔ a.Alike b := by
  obtain ⟨truth, compared⟩ := comparable
  rw [← State.same_decides regular regular' truth compared, compared, Except.ok.injEq]

end Plain

/-- Of some values, in order, those that are the same as a second value, or equal to it, are so to a
third value that the second is the same as or equal to. -/
def State.TransitiveOn (state : State) (values : List Value) : Prop :=
  ∀ i j k, i < j → j < k → Repeats state values.get i j → Repeats state values.get j k →
    Repeats state values.get i k

/-- From a collection whose items a path leads to values that are compared without a fault,
`@distinctUnionOfObjects` before the path leads to those of the values, in their order, that are
neither the same as an earlier one of them nor equal to it: a part of what `@unionOfObjects` leads to.
So each value found is one of them, or the same as one of them that comes earlier, or equal to it. Where
being the same or equal is transitive on the values, they are those that are so to no earlier value
found. On formed values whose objects are plain that is being alike, and no two of them are alike. -/
theorem resolvePath_distinctUnionOfObjects (state : State) (value : Value) (items found : List Value)
    (path : Text) (held : value.items? = some items) (filled : [] ∉ Text.splitOn "." path)
    (each : List.Forall₂ (fun item one => state.resolvePath item path = .ok one) items found)
    (comparable : found.Pairwise fun a b => ∃ truth, state.same a b = .ok truth) :
    state.resolvePath value (operatorPath unionOperator path) = .ok (.list found) ∧
      ∃ kept : List (Fin found.length),
        state.resolvePath value (operatorPath distinctOperator path) =
          .ok (.list (kept.map found.get)) ∧
        kept.Pairwise (· < ·) ∧
        (∀ i, i ∈ kept ↔ ∀ j ∈ kept, j < i → ¬ Repeats state found.get j i) ∧
        (∀ i, ∃ j ∈ kept, j ≤ i ∧ (j = i ∨ Repeats state found.get j i)) ∧
        (state.TransitiveOn found → ∀ i, i ∈ kept ↔ ∀ j < i, ¬ Repeats state found.get j i) ∧
        (state.Formed → value.Formed → (∀ one ∈ found, one.Throughout state.Plain) →
          (∀ i, i ∈ kept ↔ ∀ j < i, ¬ (found.get j).Alike (found.get i)) ∧
          (kept.map found.get).Pairwise (fun a b => ¬ a.Alike b ∧ ¬ b.Alike a) ∧
          ∀ i, ∃ j ∈ kept, j ≤ i ∧ (j = i ∨ (found.get j).Alike (found.get i))) := by
  have union_named : Aggregate.ofName? unionOperator = some .union := by decide
  have distinct_named : Aggregate.ofName? distinctOperator = some .distinct := by decide
  obtain ⟨kept, keeps, computed⟩ := KeepsFirst.distinctItems comparable
  have first_iff : ∀ i, i ∈ kept ↔ ∀ j ∈ kept, j < i → ¬ Repeats state found.get j i := fun i =>
    (keeps.mem_iff i).trans (and_iff_right (List.mem_finRange i))
  have exact_iff : state.TransitiveOn found →
      ∀ i, i ∈ kept ↔ ∀ j < i, ¬ Repeats state found.get j i := fun trans i =>
    (keeps.mem_iff_of_trans trans i).trans
      ⟨fun both j => both.2 j (List.mem_finRange j), fun new => ⟨List.mem_finRange i, fun j _ => new j⟩⟩
  refine ⟨?union, kept, ?distinct, keeps.ordered, first_iff,
    fun i => keeps.exists_kept (List.mem_finRange i), exact_iff, ?alike⟩
  case union => exact State.resolvePath_operatorPath union_named (by decide) held filled each rfl
  case distinct =>
    apply State.resolvePath_operatorPath distinct_named (by decide) held filled each
    rw [State.aggregate, computed]
    rfl
  case alike =>
    intro world formed plain
    have regular : ∀ i, (found.get i).Regular state.Plain := by
      intro i
      have member : found.get i ∈ found := List.get_mem found i
      obtain ⟨item, among, leads⟩ := exists_of_mem_mapM (State.mapM_follow_eq_ok each) member
      exact ⟨world.follow (formed.of_items held item among) leads, plain _ member⟩
    have repeats_iff : ∀ j i, j < i →
        (Repeats state found.get j i ↔ (found.get j).Alike (found.get i)) := fun j i before =>
      State.same_eq_ok_true_iff (regular j) (regular i)
        (List.pairwise_iff_getElem.mp comparable j i j.isLt i.isLt before)
    have trans : state.TransitiveOn found := by
      intro i j k first second again again'
      rw [repeats_iff i j first] at again
      rw [repeats_iff j k second] at again'
      exact (repeats_iff i k (first.trans second)).mpr (again.trans again')
    have kept_iff : ∀ i, i ∈ kept ↔ ∀ j < i, ¬ (found.get j).Alike (found.get i) := fun i =>
      (exact_iff trans i).trans
        (forall₂_congr fun j before => not_congr (repeats_iff j i before))
    refine ⟨kept_iff, ?_, fun i => ?_⟩
    · refine List.pairwise_map.mpr (keeps.ordered.imp_of_mem fun {i j} _ among before => ?_)
      have new : ¬ (found.get i).Alike (found.get j) := (kept_iff j).mp among i before
      exact ⟨new, fun alike => new (alike.symm (regular j).formed)⟩
    · obtain ⟨j, among, no_later, same⟩ := keeps.exists_kept (List.mem_finRange i)
      refine ⟨j, among, no_later, ?_⟩
      rcases no_later.eq_or_lt with one | before
      · exact .inl one
      · exact same.imp_right (repeats_iff j i before).mp

/-- One as an integer, as a floating number and as a boolean; zero as a decimal with a sign and as a
boolean; an undefined number twice and another one; a list and a tuple of one; and two sets of one
and two. -/
def mixedValues : List Value :=
  [.int 1, .double (.finite false 4503599627370496 (-52)), .flag true,
    .decimal (.finite true 0 0), .flag false, .double (.undefined (some 0)),
    .double (.undefined (some 0)), .double (.undefined (some 1)), .list [.int 1], .tuple [.int 1],
    .list [.flag true], .set [.int 1, .int 2],
    .set [.decimal (.finite false 20 (-1)), .int 1]]

/-- The first of each class of alike values among them. -/
def mixedFirsts : List Value :=
  [.int 1, .decimal (.finite true 0 0), .double (.undefined (some 0)),
    .double (.undefined (some 1)), .list [.int 1], .tuple [.int 1], .set [.int 1, .int 2]]

/-- In the state without classes and objects every value is plain. -/
theorem plain_empty (value : Value) : State.Plain ⟨.empty, .empty⟩ value := by
  cases value <;> rfl

/-- In that state everything is plain throughout every value. -/
theorem throughout_empty (value : Value) : value.Throughout (State.Plain ⟨.empty, .empty⟩) := by
  induction value using Value.parts_induction with
  | step value ih => exact .intro (plain_empty value) ih

/-- In that state all values that are stored or computed are formed. -/
theorem formed_empty : State.Formed ⟨.empty, .empty⟩ where
  attributes := nofun
  members := nofun
  properties := nofun
  enumerations := nofun
  added value name result _ found := by
    cases value with
    | moment time =>
      obtain ⟨part, -, rfl⟩ := Option.map_eq_some_iff.mp found
      exact .of_no_parts rfl
    | type type =>
      change (if name = "mro" then _ else _) = _ at found
      split at found
      · obtain rfl := Option.some.inj found
        exact .routine _
      · contradiction
    | _ => contradiction
  answers value key result formed found := by
    obtain ⟨callee, reached, called⟩ := bind_eq_ok.mp found
    obtain ⟨held, read, rfl⟩ := map_eq_ok.mp reached
    cases value with
    | member enumeration identity own inner =>
      -- A member may have this name, but it cannot be called.
      by_cases same : lookupMethod = own
      · subst same
        obtain rfl := Except.ok.inj read
        contradiction
      · have lacking : State.found? ⟨.empty, .empty⟩ (.member enumeration identity own inner)
            lookupMethod = none := by
          change (Option.map _ (if lookupMethod = own then _ else _)).or none = none
          rw [if_neg same]
          rfl
        rw [State.readAttribute_of_lacking lacking] at read
        contradiction
    | _ => contradiction

/-- These values are formed: one and two are not alike. -/
theorem formed_mixedValues : ∀ value ∈ mixedValues, value.Formed := by
  have pair : ∀ a b : Value, a.parts = [] → b.parts = [] →
      State.same ⟨.empty, .empty⟩ a b = .ok false → (Value.set [a, b]).Formed := by
    intro a b no_parts no_parts' differ
    have formed : a.Formed := .of_no_parts no_parts
    have formed' : b.Formed := .of_no_parts no_parts'
    have not_alike : ¬ a.Alike b := fun alike =>
      Bool.noConfusion ((State.same_decides ⟨formed, throughout_empty a⟩ ⟨formed', throughout_empty b⟩
        false differ).mpr alike)
    refine .intro ?_ (List.pairwise_pair.mpr not_alike)
    exact List.forall_mem_cons.mpr ⟨formed, List.forall_mem_singleton.mpr formed'⟩
  have single : ∀ value : Value, value.parts = [] → ∀ item ∈ [value], item.Formed :=
    fun value no_parts => List.forall_mem_singleton.mpr (.of_no_parts no_parts)
  have first_set : (Value.set [.int 1, .int 2]).Formed := pair _ _ rfl rfl (by decide +kernel)
  have second_set : (Value.set [.decimal (.finite false 20 (-1)), .int 1]).Formed :=
    pair _ _ rfl rfl (by decide +kernel)
  simp only [mixedValues, List.forall_mem_cons]
  exact ⟨.of_no_parts rfl, .of_no_parts rfl, .of_no_parts rfl, .of_no_parts rfl, .of_no_parts rfl,
    .of_no_parts rfl, .of_no_parts rfl, .of_no_parts rfl, .list (single _ rfl),
    .tuple (single _ rfl), .list (single _ rfl), first_set, second_set, nofun⟩

/-- Values that can be compared by computing are compared without a fault. -/
theorem exists_of_isSome {state : State} {values : List Value}
    (decided : values.Pairwise fun a b => (state.same a b).toOption.isSome = true) :
    values.Pairwise fun a b => ∃ truth, state.same a b = .ok truth := by
  refine decided.imp fun {a b} compared => ?_
  cases outcome : state.same a b with
  | ok truth => exact ⟨truth, rfl⟩
  | error fault =>
    rw [outcome] at compared
    contradiction

/-- Of these values one and zero, the two undefined numbers, a list, a tuple and a set are kept. -/
theorem resolvePath_distinctUnionOfObjects_mixed :
    State.Formed ⟨.empty, .empty⟩ ∧ (holders mixedValues).Formed ∧
      mixedValues.Pairwise (fun a b => ∃ truth, State.same ⟨.empty, .empty⟩ a b = .ok truth) ∧
      State.resolvePath ⟨.empty, .empty⟩ (holders mixedValues) "@unionOfObjects.x" =
        .ok (.list mixedValues) ∧
      ∃ kept : List (Fin mixedValues.length),
        State.resolvePath ⟨.empty, .empty⟩ (holders mixedValues) "@distinctUnionOfObjects.x" =
          .ok (.list (kept.map mixedValues.get)) ∧
        kept.map mixedValues.get = mixedFirsts ∧
        (∀ i, i ∈ kept ↔ ∀ j < i, ¬ (mixedValues.get j).Alike (mixedValues.get i)) := by
  have formed : (holders mixedValues).Formed := by
    refine .list fun item member => ?_
    obtain ⟨value, among, rfl⟩ := List.mem_map.mp member
    exact .intro (List.forall_mem_singleton.mpr (formed_mixedValues value among)) .nil
  have comparable : mixedValues.Pairwise fun a b =>
      ∃ truth, State.same ⟨.empty, .empty⟩ a b = .ok truth := exists_of_isSome (by decide +kernel)
  obtain ⟨items, held, filled, each⟩ := holders_lead ⟨.empty, .empty⟩ mixedValues
  obtain ⟨union, kept, distinct, -, -, -, -, alike⟩ :=
    resolvePath_distinctUnionOfObjects ⟨.empty, .empty⟩ (holders mixedValues) items mixedValues "x"
      held filled each comparable
  obtain ⟨kept_iff, -, -⟩ := alike formed_empty formed fun one _ => throughout_empty one
  have computed : State.distinctItems ⟨.empty, .empty⟩ mixedValues = .ok mixedFirsts := by
    with_unfolding_all rfl
  have evaluated : State.resolvePath ⟨.empty, .empty⟩ (holders mixedValues)
      (operatorPath distinctOperator "x") = .ok (.list mixedFirsts) := by
    have named : Aggregate.ofName? distinctOperator = some .distinct := rfl
    apply State.resolvePath_operatorPath named (by decide) held filled each
    rw [State.aggregate, computed]
    rfl
  have same := Value.list.inj (Except.ok.inj (distinct.symm.trans evaluated))
  exact ⟨formed_empty, formed, comparable, union, kept, distinct, same, kept_iff⟩

/-- An object of a class that takes its objects for equal to everything. -/
def agreeable : State where
  world := World.empty.declare "Guest" []
    [(comparisonName, .method
      { owner := "Guest"
        name := comparisonName
        operation := none
        kind := .ofObject
        parameters := [.self, ⟨"other", .positional, none, none⟩]
        result := none
        body := .steps [.give (.constant (.flag true))] })]
    []
  heap := .ofObjects [⟨.declared "Guest", []⟩]

/-- A value that equals an earlier one is kept if that one is not: the object equals one and is passed
over, so two is compared with one only and kept, though the object equals two. -/
theorem resolvePath_distinctUnionOfObjects_agreeable :
    [.int 1, .object 0, .int 2].Pairwise (fun a b => ∃ truth, agreeable.same a b = .ok truth) ∧
      agreeable.resolvePath (holders [.int 1, .object 0, .int 2]) "@unionOfObjects.x" =
        .ok (.list [.int 1, .object 0, .int 2]) ∧
      agreeable.same (.object 0) (.int 2) = .ok true ∧
      agreeable.resolvePath (holders [.int 1, .object 0, .int 2]) "@distinctUnionOfObjects.x" =
        .ok (.list [.int 1, .int 2]) := by
  have equal : agreeable.same (.int 1) (.object 0) = .ok true := by
    rw [State.same, Value.sameBy]
    · rfl
    · exact nofun
  have equal' : agreeable.same (.object 0) (.int 2) = .ok true := by
    rw [State.same, Value.sameBy]
    · rfl
    · exact nofun
  have differ : agreeable.same (.int 1) (.int 2) = .ok false := by
    rw [State.same, Value.sameBy]
    · decide +kernel
    all_goals exact nofun
  have first : distinctStep agreeable [] (.int 1) = .ok [.int 1] := rfl
  have passed : distinctStep agreeable [.int 1] (.object 0) = .ok [.int 1] := by
    rw [distinctStep, holdsOfSome, equal]
    rfl
  have kept : distinctStep agreeable [.int 1] (.int 2) = .ok [.int 1, .int 2] := by
    rw [distinctStep, holdsOfSome, differ]
    rfl
  have computed : agreeable.distinctItems [.int 1, .object 0, .int 2] = .ok [.int 1, .int 2] := by
    change List.foldlM (distinctStep agreeable) [] _ = _
    rw [List.foldlM_cons, first]
    change List.foldlM (distinctStep agreeable) [.int 1] [.object 0, .int 2] = _
    rw [List.foldlM_cons, passed]
    change List.foldlM (distinctStep agreeable) [.int 1] [.int 2] = _
    rw [List.foldlM_cons, kept]
    rfl
  obtain ⟨items, held, filled, each⟩ := holders_lead agreeable [.int 1, .object 0, .int 2]
  have union_named : Aggregate.ofName? unionOperator = some .union := rfl
  have distinct_named : Aggregate.ofName? distinctOperator = some .distinct := rfl
  have union_path : ("@unionOfObjects.x" : Text) = operatorPath unionOperator "x" := rfl
  have distinct_path : ("@distinctUnionOfObjects.x" : Text) = operatorPath distinctOperator "x" := rfl
  rw [union_path, distinct_path]
  refine ⟨by simp [equal, equal', differ], ?_, equal', ?_⟩
  · exact State.resolvePath_operatorPath union_named (by decide) held filled each rfl
  · apply State.resolvePath_operatorPath distinct_named (by decide) held filled each
    rw [State.aggregate, computed]
    rfl

end Stencil
