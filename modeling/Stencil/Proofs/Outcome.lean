import Mathlib.Data.List.Forall2

/-!
# Outcomes

An outcome is a value or a failure. What is done step by step has a value exactly when each step
has one, and fails in no other ways than its steps do (`FailsOnly`).
-/
namespace Stencil

variable {ε α β : Type}

/-- A step and what follows it have a value exactly when the step has one from which what follows
has it. -/
theorem bind_eq_ok {step : Except ε α} {next : α → Except ε β} {result : β} :
    step >>= next = .ok result ↔ ∃ value, step = .ok value ∧ next value = .ok result := by
  cases step with
  | error failure => simp [bind, Except.bind]
  | ok value => simp [bind, Except.bind]

/-- A step and what follows it fail exactly when the step does, or what follows its value. -/
theorem bind_eq_error {step : Except ε α} {next : α → Except ε β} {failure : ε} :
    step >>= next = .error failure ↔
      step = .error failure ∨ ∃ value, step = .ok value ∧ next value = .error failure := by
  cases step with
  | error other => simp [bind, Except.bind]
  | ok value => simp [bind, Except.bind]

/-- A changed step has a value exactly when the step has one that is changed into it. -/
theorem map_eq_ok {step : Except ε α} {change : α → β} {result : β} :
    step.map change = .ok result ↔ ∃ value, step = .ok value ∧ change value = result := by
  cases step with
  | error failure => simp [Except.map]
  | ok value => simp [Except.map]

/-- A changed step fails exactly when the step does. -/
theorem map_eq_error {step : Except ε α} {change : α → β} {failure : ε} :
    step.map change = .error failure ↔ step = .error failure := by
  cases step with
  | error other => simp [Except.map]
  | ok value => simp [Except.map]

/-- A changed step has some value exactly when the step has one. -/
theorem exists_map_eq_ok {step : Except ε α} {change : α → β} :
    (∃ result, step.map change = .ok result) ↔ ∃ value, step = .ok value := by
  cases step with
  | error failure => simp [Except.map]
  | ok value => simp [Except.map]

/-- A step whose failure is changed has a value exactly when the step has it. -/
theorem mapError_eq_ok {ε' : Type} {step : Except ε α} {change : ε → ε'} {value : α} :
    step.mapError change = .ok value ↔ step = .ok value := by
  cases step with
  | error failure => simp [Except.mapError]
  | ok other => simp [Except.mapError]

/-- A step is done on every item exactly when it has a value for each. -/
theorem mapM_eq_ok {step : α → Except ε β} {items : List α} {results : List β} :
    items.mapM step = .ok results ↔
      List.Forall₂ (fun item result => step item = .ok result) items results := by
  induction items generalizing results with
  | nil => cases results <;> simp [pure, Except.pure]
  | cons item rest ih =>
    rw [List.mapM_cons, bind_eq_ok]
    constructor
    · rintro ⟨first, found, rest_found⟩
      obtain ⟨others, others_found, same⟩ := bind_eq_ok.mp rest_found
      obtain rfl := Except.ok.inj same
      exact .cons found (ih.mp others_found)
    · intro each
      cases each with
      | cons found others =>
        exact ⟨_, found, bind_eq_ok.mpr ⟨_, ih.mpr others, rfl⟩⟩

/-- A step that has a value for every item is done on all of them. -/
theorem exists_mapM_eq_ok {step : α → Except ε β} {items : List α}
    (each : ∀ item ∈ items, ∃ result, step item = .ok result) :
    ∃ results, items.mapM step = .ok results := by
  induction items with
  | nil => exact ⟨[], rfl⟩
  | cons item rest ih =>
    obtain ⟨⟨first, found⟩, others⟩ := List.forall_mem_cons.mp each
    obtain ⟨results, rest_found⟩ := ih others
    refine ⟨first :: results, ?_⟩
    rw [List.mapM_cons, found, rest_found]
    rfl

/-- What is found for all items is found for one of them. -/
theorem exists_of_mem_mapM {step : α → Except ε β} {items : List α} {results : List β}
    {result : β} (found : items.mapM step = .ok results) (member : result ∈ results) :
    ∃ item ∈ items, step item = .ok result := by
  induction mapM_eq_ok.mp found with
  | nil => exact absurd member List.not_mem_nil
  | cons here others ih =>
    rcases List.mem_cons.mp member with rfl | behind
    · exact ⟨_, List.mem_cons_self, here⟩
    · obtain ⟨item, among, later⟩ := ih (mapM_eq_ok.mpr others) behind
      exact ⟨item, List.mem_cons_of_mem _ among, later⟩

/-- A step that is done on all items has found something for each of them. -/
theorem exists_mem_of_mapM {step : α → Except ε β} {items : List α} {results : List β} {item : α}
    (found : items.mapM step = .ok results) (member : item ∈ items) :
    ∃ result ∈ results, step item = .ok result := by
  induction mapM_eq_ok.mp found with
  | nil => exact absurd member List.not_mem_nil
  | cons here others ih =>
    rcases List.mem_cons.mp member with rfl | behind
    · exact ⟨_, List.mem_cons_self, here⟩
    · obtain ⟨result, among, later⟩ := ih (mapM_eq_ok.mpr others) behind
      exact ⟨result, List.mem_cons_of_mem _ among, later⟩

/-- A step that gives for each changed item what another gives for the item, changed, gives for all
changed items what the other gives for all, changed. -/
theorem mapM_map_eq_map {α' β' : Type} {step : α → Except ε β} {step' : α' → Except ε β'}
    {before : α → α'} {after : β → β'} {items : List α}
    (each : ∀ item ∈ items, step' (before item) = (step item).map after) :
    (items.map before).mapM step' = (items.mapM step).map (List.map after) := by
  induction items with
  | nil => rfl
  | cons item rest ih =>
    obtain ⟨first, others⟩ := List.forall_mem_cons.mp each
    rw [List.map_cons, List.mapM_cons, List.mapM_cons, first, ih others]
    cases step item with
    | error failure => rfl
    | ok result => cases rest.mapM step <;> rfl

/-- Two steps one after the other are done on every item exactly when the first is done on all items
and the second on all that it gives. -/
theorem mapM_bind_eq_ok {γ : Type} {first : α → Except ε β} {next : β → Except ε γ} {items : List α}
    {results : List γ} :
    (items.mapM fun item => first item >>= next) = .ok results ↔
      ∃ values, items.mapM first = .ok values ∧ values.mapM next = .ok results := by
  simp only [mapM_eq_ok]
  constructor
  · intro each
    induction each with
    | nil => exact ⟨[], .nil, .nil⟩
    | cons both others ih =>
      obtain ⟨value, here, then_here⟩ := bind_eq_ok.mp both
      obtain ⟨values, firsts, seconds⟩ := ih
      exact ⟨value :: values, .cons here firsts, .cons then_here seconds⟩
  · rintro ⟨values, firsts, seconds⟩
    induction firsts generalizing results with
    | nil =>
      cases seconds
      exact .nil
    | cons here others ih =>
      cases seconds with
      | cons then_here seconds =>
        exact .cons (bind_eq_ok.mpr ⟨_, here, then_here⟩) (ih seconds)

/-- What is done on every item fails exactly with the failure of the first item where the step
fails. -/
theorem mapM_eq_error {step : α → Except ε β} {items : List α} {failure : ε} :
    items.mapM step = .error failure ↔
      ∃ before item after, items = before ++ item :: after ∧
        (∀ other ∈ before, ∃ result, step other = .ok result) ∧ step item = .error failure := by
  induction items with
  | nil =>
    refine iff_of_false nofun ?_
    rintro ⟨before, item, after, split, -⟩
    exact List.append_ne_nil_of_right_ne_nil before (List.cons_ne_nil item after) split.symm
  | cons first rest ih =>
    rw [List.mapM_cons, bind_eq_error]
    constructor
    · rintro (here | ⟨result, found, later⟩)
      · exact ⟨[], first, rest, rfl, nofun, here⟩
      · rcases bind_eq_error.mp later with behind | ⟨results, -, no_failure⟩
        · obtain ⟨before, item, after, rfl, earlier, failed⟩ := ih.mp behind
          exact ⟨first :: before, item, after, rfl,
            List.forall_mem_cons.mpr ⟨⟨result, found⟩, earlier⟩, failed⟩
        · contradiction
    · rintro ⟨before, item, after, split, earlier, failed⟩
      cases before with
      | nil =>
        obtain ⟨rfl, rfl⟩ := List.cons.inj split
        exact .inl failed
      | cons other before =>
        obtain ⟨rfl, rfl⟩ := List.cons.inj split
        obtain ⟨⟨result, found⟩, others⟩ := List.forall_mem_cons.mp earlier
        refine .inr ⟨result, found, bind_eq_error.mpr (.inl ?_)⟩
        exact ih.mpr ⟨before, item, after, rfl, others, failed⟩

/-- Where the values of entries are changed step by step, a key is found with the changed value, or
not found as before. -/
theorem lookup_of_mapM {κ : Type} [BEq κ] {step : α → Except ε β} {entries : List (κ × α)}
    {results : List (κ × β)}
    (found : (entries.mapM fun entry => (step entry.2).map fun result => (entry.1, result)) =
      .ok results) (key : κ) :
    entries.lookup key = none ∧ results.lookup key = none ∨
      ∃ value result, entries.lookup key = some value ∧ step value = .ok result ∧
        results.lookup key = some result := by
  induction entries generalizing results with
  | nil =>
    obtain rfl := Except.ok.inj found
    exact .inl ⟨rfl, rfl⟩
  | cons entry rest ih =>
    obtain ⟨name, value⟩ := entry
    rw [List.mapM_cons] at found
    obtain ⟨changed, step_found, later⟩ := bind_eq_ok.mp found
    obtain ⟨others, rest_found, same⟩ := bind_eq_ok.mp later
    obtain rfl := Except.ok.inj same
    obtain ⟨result, result_found, rfl⟩ := map_eq_ok.mp step_found
    rw [List.lookup_cons, List.lookup_cons]
    cases key == name with
    | true => exact .inr ⟨value, result, rfl, result_found, rfl⟩
    | false => exact ih rest_found

/-- What holds at first and is kept by each step holds of what is gathered from item to item. -/
theorem foldlM_eq_ok_of_kept {step : β → α → Except ε β} (holds : β → Prop) {items : List α}
    {first last : β} (gathered : items.foldlM step first = .ok last)
    (kept : ∀ state item next, item ∈ items → holds state → step state item = .ok next → holds next)
    (here : holds first) : holds last := by
  induction items generalizing first with
  | nil =>
    obtain rfl := Except.ok.inj gathered
    exact here
  | cons item rest ih =>
    rw [List.foldlM_cons] at gathered
    obtain ⟨next, stepped, later⟩ := bind_eq_ok.mp gathered
    refine ih later ?_ (kept first item next List.mem_cons_self here stepped)
    exact fun state other next member => kept state other next (List.mem_cons_of_mem item member)

/-! ### Tests -/

/-- A test that can fail decides a proposition if it is right about it wherever it does not fail. -/
def Decides (test : Except ε Bool) (holds : Prop) : Prop :=
  ∀ truth, test = .ok truth → (truth = true ↔ holds)

namespace Decides

variable {test next : Except ε Bool} {holds other : Prop}

/-- An answer decides what it is right about. -/
theorem ok {truth : Bool} (right : truth = true ↔ holds) :
    Decides (.ok truth : Except ε Bool) holds := by
  rintro answer ⟨⟩
  exact right

/-- A failure is not wrong about anything. -/
theorem error {failure : ε} : Decides (.error failure : Except ε Bool) holds := nofun

/-- What decides a proposition decides an equivalent one. -/
theorem congr (decides : Decides test holds) (same : holds ↔ other) : Decides test other :=
  fun truth answered => (decides truth answered).trans same

/-- A test that is followed by another where it succeeds decides both. -/
theorem and (decides : Decides test holds) (decides' : Decides next other) :
    Decides (test >>= fun truth => if truth then next else .ok false) (holds ∧ other) := by
  intro answer answered
  obtain ⟨truth, tested, later⟩ := bind_eq_ok.mp answered
  rw [← decides truth tested]
  cases truth with
  | true =>
    rw [decides' answer later]
    exact (and_iff_right rfl).symm
  | false =>
    obtain rfl := Except.ok.inj later
    exact iff_of_false Bool.false_ne_true fun both => Bool.false_ne_true both.1

/-- A test that is followed by another where it does not succeed decides one of the two. -/
theorem or (decides : Decides test holds) (decides' : Decides next other) :
    Decides (test >>= fun truth => if truth then .ok true else next) (holds ∨ other) := by
  intro answer answered
  obtain ⟨truth, tested, later⟩ := bind_eq_ok.mp answered
  rw [← decides truth tested]
  cases truth with
  | true =>
    obtain rfl := Except.ok.inj later
    exact iff_of_true rfl (.inl rfl)
  | false =>
    rw [decides' answer later]
    exact (or_iff_right Bool.false_ne_true).symm

end Decides

/-! ### Ways to fail -/

/-- A step fails in no other ways than those allowed. -/
def FailsOnly (allowed : ε → Prop) (step : Except ε α) : Prop :=
  ∀ failure, step = .error failure → allowed failure

namespace FailsOnly

variable {allowed : ε → Prop} {step : Except ε α}

/-- A value is no failure. -/
theorem ok {value : α} : FailsOnly allowed (.ok value : Except ε α) := nofun

/-- A failure fails as it does. -/
theorem error {failure : ε} (fine : allowed failure) :
    FailsOnly allowed (.error failure : Except ε α) := by
  rintro other ⟨⟩
  exact fine

/-- What is one of two steps fails only in the ways of both. -/
theorem ite {condition : Prop} [Decidable condition] {other : Except ε α}
    (first : FailsOnly allowed step) (second : FailsOnly allowed other) :
    FailsOnly allowed (if condition then step else other) := by
  split
  · exact first
  · exact second

/-- What fails only in some ways fails only in more ways. -/
theorem mono {more : ε → Prop} (fails : FailsOnly allowed step)
    (weaker : ∀ failure, allowed failure → more failure) : FailsOnly more step :=
  fun failure found => weaker failure (fails failure found)

/-- A step and what follows its value fail only in the ways of both. -/
theorem bind {next : α → Except ε β} (first : FailsOnly allowed step)
    (later : ∀ value, step = .ok value → FailsOnly allowed (next value)) :
    FailsOnly allowed (step >>= next) := by
  intro failure found
  rcases bind_eq_error.mp found with here | ⟨value, held, behind⟩
  · exact first failure here
  · exact later value held failure behind

/-- A changed step fails only in the ways of the step. -/
theorem map {change : α → β} (fails : FailsOnly allowed step) :
    FailsOnly allowed (step.map change) :=
  fun failure found => fails failure (map_eq_error.mp found)

/-- A step whose failure is changed fails only in the changed ways. -/
theorem mapError {ε' : Type} {other : ε' → Prop} {change : ε → ε'}
    (fails : FailsOnly (fun failure => other (change failure)) step) :
    FailsOnly other (step.mapError change) := by
  cases step with
  | error failure => exact error (fails failure rfl)
  | ok value => exact ok

/-- What is done on every item fails only in the ways of the step. -/
theorem mapM {step : α → Except ε β} {items : List α}
    (each : ∀ item ∈ items, FailsOnly allowed (step item)) :
    FailsOnly allowed (items.mapM step) := by
  induction items with
  | nil => exact ok
  | cons item rest ih =>
    obtain ⟨first, others⟩ := List.forall_mem_cons.mp each
    rw [List.mapM_cons]
    exact first.bind fun value _ => (ih others).bind fun values _ => ok

/-- What is gathered from item to item fails only in the ways of the step. -/
theorem foldlM {step : β → α → Except ε β} (each : ∀ state item, FailsOnly allowed (step state item))
    (state : β) (items : List α) : FailsOnly allowed (items.foldlM step state) := by
  induction items generalizing state with
  | nil => exact ok
  | cons item rest ih =>
    rw [List.foldlM_cons]
    exact (each state item).bind fun later _ => ih later

end FailsOnly

end Stencil
