import Stencil.Rendering
import Stencil.Proofs.KeyPath.Mapping
import Stencil.Proofs.Object.Attribute
import Stencil.Proofs.Value.Faults

/-!
# How key paths fail

Following a key path leads to a value, fails as a path, or lets an arithmetic fault of an operator
pass. The last happens exactly where the path comes to an operator and computing with the values
found there has such a fault (`State.Overflows`). This holds of every value from which nothing is
reached that answers look-ups, or computes attributes, with faults of its own, where no class compares
its objects with faults of its own (`State.Answers`).
-/
namespace Stencil

/-! ### Values that are reached -/

/-- A value is reached from another: it is the value itself, an item of a collection that is
reached, or what a value that is reached has for a key. -/
inductive State.Reaches (state : State) (origin : Value) : Value → Prop
  /-- The value itself. -/
  | origin : Reaches state origin origin
  /-- An item of a collection. -/
  | item {collection item : Value} {items : List Value} (reached : Reaches state origin collection)
    (held : collection.items? = some items) (member : item ∈ items) : Reaches state origin item
  /-- What a value has for a key. -/
  | read {value result : Value} {key : Text} (reached : Reaches state origin value)
    (found : state.valueForKey key value = .ok result) : Reaches state origin result

/-- Something holds of every value that is reached. -/
def State.Everywhere (state : State) (origin : Value) (holds : Value → Prop) : Prop :=
  ∀ other, state.Reaches origin other → holds other

/-- A value reports what it lacks as missing, and looking keys up in it ends with no other fault. -/
structure State.Reports (state : State) (value : Value) : Prop where
  /-- So it is where it holds its values itself. -/
  keyed : ∀ identity missing entries, value = .keyed identity missing entries → missing ≠ .failure
  /-- Whether it answers look-ups can be found out. -/
  tells : ∀ fault, state.answersLookups value ≠ .error fault
  /-- So it is where its class answers look-ups. -/
  answers : ∀ key fault, state.answersLookups value = .ok true →
    state.answer value key = .error fault →
    (fault.isA "KeyError" || fault.isA "AttributeError") = true
  /-- So it is where its attributes are read. -/
  reads : ∀ key fault, state.readAttribute value key = .error fault →
    fault.isA State.missingClass = true

/-- Whatever is reached reports what it lacks as missing, and objects are compared with arithmetic
faults only. -/
structure State.Answers (state : State) (value : Value) : Prop where
  /-- What is reached reports what it lacks as missing. -/
  reports : state.Everywhere value state.Reports
  /-- Objects are compared with arithmetic faults only. -/
  compares : ∀ a b, ArithmeticOnly (state.objectTest a b)

section Reaching

variable {state : State} {value : Value}

/-- What is reached from a value that is reached is reached. -/
theorem State.Reaches.trans {middle last : Value} (first : state.Reaches value middle)
    (second : state.Reaches middle last) : state.Reaches value last := by
  induction second with
  | origin => exact first
  | item _ held member ih => exact .item ih held member
  | read _ found ih => exact .read ih found

section Everywhere

variable {holds : Value → Prop} (everywhere : state.Everywhere value holds)

include everywhere

/-- What holds of every value that is reached holds of the origin. -/
theorem State.Everywhere.here : holds value := everywhere value .origin

/-- It holds of every value that is reached from one that is reached. -/
theorem State.Everywhere.of_reaches {other : Value} (reached : state.Reaches value other) :
    state.Everywhere other holds := fun last later => everywhere last (reached.trans later)

/-- It holds of every value that is reached from an item of a collection. -/
theorem State.Everywhere.of_item {items : List Value} (held : value.items? = some items) :
    ∀ item ∈ items, state.Everywhere item holds :=
  fun _ member => everywhere.of_reaches (.item .origin held member)

/-- It holds of every value that is reached from what the origin has for a key. -/
theorem State.Everywhere.of_read {key : Text} {result : Value}
    (found : state.valueForKey key value = .ok result) : state.Everywhere result holds :=
  everywhere.of_reaches (.read .origin found)

end Everywhere

/-- What is reached from a value of a class of values that is closed under taking items and reading
keys is in that class. -/
theorem State.Reaches.of_closed {holds : Value → Prop} (here : holds value)
    (items : ∀ collection items, holds collection → collection.items? = some items →
      ∀ item ∈ items, holds item)
    (reads : ∀ other key result, holds other → state.valueForKey key other = .ok result →
      holds result) {last : Value} (reached : state.Reaches value last) : holds last := by
  induction reached with
  | origin => exact here
  | item _ held member ih => exact items _ _ ih held _ member
  | read _ found ih => exact reads _ _ _ ih found

end Reaching

/-! ### Reading keys -/

/-- A step fails as a path, if it fails. -/
def RefusedOnly {α : Type} (step : PathOutcome α) : Prop :=
  FailsOnly (fun failure => ∃ cause, failure = .refused cause) step

section Reading

variable {state : State} {key : Text}

/-- A mapping has a value for a key or lacks it. -/
theorem mappingValue_refuses (entries : List (Value × Value)) :
    RefusedOnly (mappingValue entries key) := by
  rw [mappingValue, entryOf?_text]
  cases (entries.find? fun entry => entry.1.text? == some key).map Prod.snd with
  | some value => exact FailsOnly.ok
  | none => exact FailsOnly.error ⟨_, rfl⟩

/-- A look-up that is answered by itself, or with what is lacking, fails as a path only. -/
theorem answeredLookup_refuses {answer : Except Fault Value}
    (reports : ∀ fault, answer = .error fault →
      (fault.isA "KeyError" || fault.isA "AttributeError") = true) :
    RefusedOnly (answeredLookup key answer) := by
  cases answer with
  | ok value => exact FailsOnly.ok
  | error fault =>
    rw [answeredLookup, if_pos (reports fault rfl)]
    exact FailsOnly.error ⟨_, rfl⟩

/-- A value that reports what it lacks as missing and holds its values itself has one for a key or
lacks it. -/
theorem keyedValue_refuses {missing : MissingKey} {entries : List (Text × Value)}
    (reports : missing ≠ .failure) : RefusedOnly (keyedValue missing entries key) := by
  unfold keyedValue
  split
  · exact FailsOnly.ok
  · refine answeredLookup_refuses fun fault same => ?_
    obtain rfl := Except.error.inj same
    cases missing with
    | key => rfl
    | «attribute» => exact Bool.or_eq_true_iff.mpr (.inr (Fault.isA_of_kind rfl))
    | failure => contradiction

/-- A value that reports what it lacks as missing answers a look-up, or has an attribute, or lacks
it. -/
theorem State.attributeForKey_refuses {value : Value} (reports : state.Reports value) :
    RefusedOnly (state.attributeForKey key value) := by
  unfold attributeForKey
  split
  · next fault told => exact absurd told (reports.tells fault)
  · next told => exact answeredLookup_refuses fun fault => reports.answers key fault told
  · split
    · exact FailsOnly.ok
    · next fault failed =>
      rw [if_pos (reports.reads key fault failed)]
      exact FailsOnly.error ⟨_, rfl⟩

/-- Keys are read from values, and from each of some, with a value or a failure of the path. -/
theorem State.reads_refuse (state : State) (key : Text) :
    (∀ value, state.Everywhere value state.Reports → RefusedOnly (state.read key value)) ∧
      ∀ items, (∀ item ∈ items, state.Everywhere item state.Reports) →
        RefusedOnly (state.readAll key items) := by
  apply State.read.mutual_induct state key
  case case1 =>
    intro identity missing entries reports
    rw [State.read]
    exact keyedValue_refuses (reports.here.keyed _ _ _ rfl)
  case case2 =>
    intro entries reports
    rw [State.read]
    exact mappingValue_refuses entries
  case case3 | case4 | case5 =>
    intro items each reports
    rw [State.read]
    exact (each (reports.of_item rfl)).map
  case case6 =>
    intro reports
    exact FailsOnly.error ⟨_, rfl⟩
  case case7 =>
    intro value _ _ _ _ _ _ reports
    rw [State.read]
    · exact State.attributeForKey_refuses reports.here
    all_goals assumption
  case case8 =>
    intro reports
    exact FailsOnly.ok
  case case9 =>
    intro item rest hidden here behind reports
    rw [State.readAll, if_pos hidden]
    exact FailsOnly.error ⟨_, rfl⟩
  case case10 =>
    intro item rest hidden here behind reports
    obtain ⟨first, others⟩ := List.forall_mem_cons.mp reports
    rw [State.readAll, if_neg hidden]
    exact (here first).bind fun _ _ => (behind others).bind fun _ _ => FailsOnly.ok

/-- A value has a value for a key, or the path fails. -/
theorem State.valueForKey_refuses {value : Value} (reports : state.Everywhere value state.Reports) :
    RefusedOnly (state.valueForKey key value) :=
  FailsOnly.ite (FailsOnly.error ⟨_, rfl⟩) ((state.reads_refuse key).1 value reports)

end Reading

/-! ### Overflows -/

/-- Following keys comes to an operator whose computing with the values found has an arithmetic
fault. -/
inductive State.Overflows (state : State) : List Text → Value → Fault → Prop
  /-- The operator is the first key. -/
  | computing {name : Text} {operator : Aggregate} {rest : List Text} {value : Value}
    {items found : List Value} {fault : Fault} (named : Aggregate.ofName? name = some operator)
    (held : value.items? = some items) (more : rest ≠ [])
    (followed : items.mapM (state.follow rest) = .ok found)
    (fails : state.aggregate found operator = .error fault)
    (arithmetic : fault.isArithmetic = true) : Overflows state (('@' :: name) :: rest) value fault
  /-- It is behind another operator, for an item of the collection; the keys lead from all items
  before to values. -/
  | inItem {name : Text} {operator : Aggregate} {rest : List Text} {value item : Value}
    {before after : List Value} {fault : Fault} (named : Aggregate.ofName? name = some operator)
    (follows : operator ≠ .count) (held : value.items? = some (before ++ item :: after))
    (earlier : ∀ other ∈ before, ∃ result, state.follow rest other = .ok result)
    (inside : Overflows state rest item fault) : Overflows state (('@' :: name) :: rest) value fault
  /-- It is behind a key that is read. -/
  | behind {key : Text} {rest : List Text} {value next : Value} {fault : Fault}
    (plain : ∀ name, key ≠ '@' :: name) (read : state.valueForKey key value = .ok next)
    (later : Overflows state rest next fault) : Overflows state (key :: rest) value fault

section Following

variable {state : State} {keys : List Text} {value : Value} {fault : Fault}

/-- A fault that an operator can have: one of arithmetic, or one of operands of wrong types where items
are not only compared for equality. -/
def Aggregate.Allows (operator : Aggregate) (fault : Fault) : Prop :=
  fault.isArithmetic = true ∨ fault.kind = "TypeError" ∧ operator ≠ .distinct

/-- An operator that does not compare items for equality can have all faults of operands. -/
theorem Aggregate.allows_of_operands {operator : Aggregate} {α : Type} {step : Except Fault α}
    (other : operator ≠ .distinct) (fails : OperandsOnly step) : FailsOnly operator.Allows step :=
  fails.mono fun _ operands => operands.symm.imp_right fun type => ⟨type, other⟩

/-- An operator computes with faults of its operands only, if objects are compared with arithmetic
faults only. -/
theorem State.aggregate_fails {operator : Aggregate}
    (compares : ∀ a b, ArithmeticOnly (state.objectTest a b)) (items : List Value) :
    FailsOnly operator.Allows (state.aggregate items operator) := by
  have same_fails : ∀ a b, ArithmeticOnly (state.same a b) :=
    (comparisons_fail (fun _ arithmetic => arithmetic) compares).1
  cases operator with
  | count => exact FailsOnly.ok
  | sum => exact Aggregate.allows_of_operands nofun (Value.sum_fails _ items)
  | average =>
    refine FailsOnly.ite FailsOnly.ok (Aggregate.allows_of_operands nofun ?_)
    exact (Value.sum_fails _ items).bind fun total _ => total.dividedBy_fails _ _
  | least =>
    cases items with
    | nil => exact FailsOnly.ok
    | cons first rest => exact Aggregate.allows_of_operands nofun (extremeFrom_fails _ _ first rest)
  | greatest =>
    cases items with
    | nil => exact FailsOnly.ok
    | cons first rest => exact Aggregate.allows_of_operands nofun (extremeFrom_fails _ _ first rest)
  | union => exact FailsOnly.ok
  | distinct =>
    refine FailsOnly.map (FailsOnly.foldlM (fun kept item => ?_) [] items)
    have searched : ArithmeticOnly (holdsOfSome (fun other => state.same other item) kept) :=
      holdsOfSome_fails (fun other => same_fails other item) kept
    exact (searched.mono fun _ => .inl).bind fun _ _ => FailsOnly.ok

/-- Operands of wrong types are no arithmetic. -/
theorem Fault.isA_of_isArithmetic (arithmetic : fault.isArithmetic = true) :
    ¬ fault.isA "TypeError" = true := by
  cases fault <;> first | contradiction | decide

/-- An operator lets exactly the arithmetic faults pass that it can have. -/
theorem operatorFailure_eq_escaped {operator : Aggregate} {name : Text} {cause : Fault}
    (allowed : operator.Allows cause) :
    operatorFailure operator name cause = .escaped fault ↔
      cause = fault ∧ fault.isArithmetic = true := by
  rw [operatorFailure]
  constructor
  · intro escaped
    split at escaped
    · contradiction
    · next other =>
      obtain rfl := PathFailure.escaped.inj escaped
      refine ⟨rfl, allowed.resolve_right fun ⟨type, comparing⟩ => other ?_⟩
      rw [Bool.and_eq_true, decide_eq_true_eq]
      exact ⟨Fault.isA_of_kind type, comparing⟩
  · rintro ⟨rfl, arithmetic⟩
    refine if_neg fun refused => Fault.isA_of_isArithmetic arithmetic ?_
    exact (Bool.and_eq_true_iff.mp refused).1

/-- An operator other than the number of items computes with what the keys behind it lead to from
each item. -/
theorem State.follow_operator {name : Text} {operator : Aggregate} {rest : List Text}
    {items : List Value} (named : Aggregate.ofName? name = some operator)
    (follows : operator ≠ .count) (held : value.items? = some items) (more : rest ≠ []) :
    state.follow (('@' :: name) :: rest) value =
      items.mapM (state.follow rest) >>= fun found =>
        (state.aggregate found operator).mapError (operatorFailure operator name) := by
  have not_ended : ¬ rest.isEmpty = true := fun ended => more (List.isEmpty_iff.mp ended)
  rw [State.follow, named, held]
  cases operator with
  | count => contradiction
  | _ => exact if_neg not_ended

/-- A key that is no operator is read. -/
theorem State.follow_key {key : Text} {rest : List Text} (plain : ∀ name, key ≠ '@' :: name) :
    state.follow (key :: rest) value = state.valueForKey key value >>= state.follow rest := by
  rw [State.follow]
  exact plain

/-- Where following keys overflows, it lets the fault pass. -/
theorem State.Overflows.follow_eq (overflows : state.Overflows keys value fault) :
    state.follow keys value = .error (.escaped fault) := by
  induction overflows with
  | @computing name operator rest value items found fault named held more followed fails
      arithmetic =>
    have follows : operator ≠ .count := by
      rintro rfl
      contradiction
    have passes : operatorFailure operator name fault = .escaped fault :=
      (operatorFailure_eq_escaped (.inl arithmetic)).mpr ⟨rfl, arithmetic⟩
    rw [State.follow_operator named follows held more, followed, ← passes]
    change (state.aggregate found operator).mapError _ = _
    rw [fails]
    rfl
  | @inItem name operator rest value item before after fault named follows held earlier inside ih =>
    have more : rest ≠ [] := by
      rintro rfl
      cases inside
    rw [State.follow_operator named follows held more, bind_eq_error]
    exact .inl (mapM_eq_error.mpr ⟨before, item, after, rfl, earlier, ih⟩)
  | behind plain read later ih =>
    rw [State.follow_key plain, read]
    exact ih

/-- Following keys lets a fault pass exactly where it overflows. -/
theorem State.follow_eq_escaped (answers : state.Answers value) :
    state.follow keys value = .error (.escaped fault) ↔ state.Overflows keys value fault := by
  refine ⟨fun escaped => ?_, State.Overflows.follow_eq⟩
  induction keys, value using State.follow.induct with
  | case1 value => contradiction
  | case2 rest value name unknown =>
    rw [State.follow, unknown] at escaped
    cases escaped
  | case3 rest value name operator no_items named =>
    rw [State.follow, named, no_items] at escaped
    cases escaped
  | case4 rest value name items held named =>
    rw [State.follow, named, held] at escaped
    cases escaped
  | case5 rest value name operator items follows held named ended =>
    rw [State.follow, named, held] at escaped
    cases operator with
    | count => exact absurd rfl follows
    | _ =>
      dsimp only at escaped
      rw [if_pos ended] at escaped
      cases escaped
  | case6 rest value name operator items follows held named more ih =>
    have more : rest ≠ [] := fun ended => more (List.isEmpty_iff.mpr ended)
    rw [State.follow_operator named follows held more] at escaped
    rcases bind_eq_error.mp escaped with early | ⟨found, followed, late⟩
    · obtain ⟨before, item, after, rfl, earlier, failed⟩ := mapM_eq_error.mp early
      have member : item ∈ before ++ item :: after := by simp
      exact .inItem named follows held earlier
        (ih item ⟨answers.reports.of_item held item member, answers.compares⟩ failed)
    · cases computed : state.aggregate found operator with
      | ok result =>
        rw [computed] at late
        contradiction
      | error cause =>
        rw [computed] at late
        have allowed := State.aggregate_fails answers.compares found cause computed
        obtain ⟨rfl, arithmetic⟩ := (operatorFailure_eq_escaped allowed).mp (Except.error.inj late)
        exact .computing named held more followed computed arithmetic
  | case7 rest value key plain ih =>
    rw [State.follow_key fun name same => plain name same] at escaped
    rcases bind_eq_error.mp escaped with early | ⟨next, read, late⟩
    · obtain ⟨cause, refused⟩ := State.valueForKey_refuses answers.reports _ early
      contradiction
    · exact .behind (fun name same => plain name same) read
        (ih next ⟨answers.reports.of_read read, answers.compares⟩ late)

/-- What overflows is an arithmetic fault of an operator of the path that computes. -/
theorem State.Overflows.exists_operator (overflows : state.Overflows keys value fault) :
    fault.isArithmetic = true ∧ ∃ name operator, '@' :: name ∈ keys ∧
      Aggregate.ofName? name = some operator ∧ operator ≠ .count ∧ operator ≠ .union := by
  induction overflows with
  | @computing name operator rest value items found fault named held more followed fails
      arithmetic =>
    refine ⟨arithmetic, name, operator, List.mem_cons_self, named, ?_, ?_⟩ <;>
      rintro rfl <;> contradiction
  | inItem named follows held earlier inside ih =>
    obtain ⟨arithmetic, other, computing, member, known⟩ := ih
    exact ⟨arithmetic, other, computing, List.mem_cons_of_mem _ member, known⟩
  | behind plain read later ih =>
    obtain ⟨arithmetic, other, computing, member, known⟩ := ih
    exact ⟨arithmetic, other, computing, List.mem_cons_of_mem _ member, known⟩

end Following

/-! ### Whole paths -/

section Resolution

variable {state : State} {value : Value} {path : Text}

/-- A path without empty components is resolved by following them. -/
theorem State.resolve_of_filled (filled : [] ∉ Text.splitOn "." path) :
    state.resolve value path = state.follow (Text.splitOn "." path) value := by
  have not_empty : ¬ path.isEmpty = true := by
    rw [List.isEmpty_iff]
    rintro rfl
    exact filled (List.mem_singleton.mpr rfl)
  have no_empty_component : ¬ (Text.splitOn "." path).any List.isEmpty = true := by
    rw [List.any_eq_true]
    rintro ⟨component, member, empty⟩
    exact filled (List.isEmpty_iff.mp empty ▸ member)
  rw [State.resolve, if_neg not_empty]
  exact if_neg no_empty_component

/-- A path with an empty component leads nowhere. -/
theorem State.resolve_of_empty (state : State) (value : Value) (empty : [] ∈ Text.splitOn "." path) :
    ∃ cause, state.resolve value path = .error (.refused cause) := by
  have empty_component : (Text.splitOn "." path).any List.isEmpty = true :=
    List.any_eq_true.mpr ⟨[], empty, rfl⟩
  rw [State.resolve]
  by_cases nothing : path.isEmpty = true
  · exact ⟨.emptyPath, if_pos nothing⟩
  · refine ⟨.emptyComponent, ?_⟩
    rw [if_neg nothing]
    exact if_pos empty_component

/-- Resolving a path lets a fault pass exactly if the path has no empty component and following it
overflows. -/
theorem State.resolve_eq_escaped (answers : state.Answers value) {fault : Fault} :
    state.resolve value path = .error (.escaped fault) ↔
      [] ∉ Text.splitOn "." path ∧ state.Overflows (Text.splitOn "." path) value fault := by
  by_cases empty : [] ∈ Text.splitOn "." path
  · obtain ⟨cause, refused⟩ := state.resolve_of_empty value empty
    rw [refused]
    exact iff_of_false nofun fun both => both.1 empty
  · rw [State.resolve_of_filled empty, State.follow_eq_escaped answers]
    exact (and_iff_right empty).symm

/-- A fault passes from a path exactly if it passes from resolving it. -/
theorem State.resolvePath_eq_escaped {fault : Fault} :
    state.resolvePath value path = .error (.escaped fault) ↔
      state.resolve value path = .error (.escaped fault) := by
  rw [State.resolvePath]
  rcases state.resolve value path with (cause | other) | result
  · simp [Except.mapError]
  · simp [Except.mapError]
  · simp [Except.mapError]

end Resolution

/-- Where no class compares its objects, they are compared without a fault. -/
theorem State.objectTest_of_plain {state : State}
    (plain : ∀ value, state.special? value comparisonName = none) :
    state.objectTest = ObjectTest.apart := by
  have undecided : ∀ value other, state.decideEqual value other = .ok none := by
    intro value other
    rw [decideEqual, plain]
  funext a b
  simp only [objectTest, undecided]
  rfl

/-- A value without attributes that is no object reports what it lacks as missing. -/
theorem State.Reports.of_bare {state : State} {value : Value}
    (bare : ∀ name, state.found? value name = none) (no_object : ∀ reference, value ≠ .object reference)
    (keyed : ∀ identity missing entries, value = .keyed identity missing entries →
      missing ≠ .failure) : state.Reports value := by
  have silent : state.answersLookups value = .ok false := by
    have missing : state.attribute? value lookupMethod = .ok none :=
      State.attribute?_of_lacking (bare lookupMethod)
    unfold State.answersLookups
    cases value with
    | object reference => exact absurd rfl (no_object reference)
    | _ =>
      dsimp only
      rw [missing]
      rfl
  constructor
  · exact keyed
  · rw [silent]
    exact nofun
  · intro key fault answering
    rw [silent] at answering
    contradiction
  · intro key fault failed
    rw [State.readAttribute_of_lacking (bare key)] at failed
    exact Except.error.inj failed ▸ state.isA_lacks value key

/-- A list of an object that answers look-ups itself and has a number for one key. -/
def numbered (number : Value) : Value := .list [.keyed 0 .key [("x", number)]]

/-- What is reached from the list: the list, the object, the number, and a list of the number. -/
inductive AmongNumbered (number : Value) : Value → Prop
  /-- The list. -/
  | whole : AmongNumbered number (numbered number)
  /-- The object. -/
  | object : AmongNumbered number (.keyed 0 .key [("x", number)])
  /-- The number. -/
  | number : AmongNumbered number number
  /-- The list of the number. -/
  | numbers : AmongNumbered number (.list [number])

/-- What a list of one item has for a key is a list of what the item has for it. -/
theorem State.read_single {state : State} {key : Text} {item result : Value}
    (shown : ¬ key.startsWith "_" = true) (found : state.read key (.list [item]) = .ok result) :
    ∃ value, state.read key item = .ok value ∧ result = .list [value] := by
  rw [State.read] at found
  obtain ⟨values, all_found, rfl⟩ := map_eq_ok.mp found
  rw [State.readAll, if_neg shown] at all_found
  obtain ⟨value, here, rest⟩ := bind_eq_ok.mp all_found
  exact ⟨value, here, congrArg Value.list (Except.ok.inj rest).symm⟩

/-- The object has nothing but the number. -/
theorem State.read_keyed_single {key : Text} {number result : Value}
    (found : State.read ⟨.empty, .empty⟩ key (.keyed 0 .key [("x", number)]) = .ok result) :
    result = number := by
  rw [State.read] at found
  unfold keyedValue at found
  rw [List.lookup_cons] at found
  cases same : key == "x" with
  | true =>
    rw [same] at found
    exact (Except.ok.inj found).symm
  | false =>
    rw [same] at found
    cases found

/-- A number has nothing for a key. -/
theorem State.read_number {number : Value} (simple : number.number?.isSome = true) (key : Text)
    (result : Value) : State.read ⟨.empty, .empty⟩ key number ≠ .ok result := by
  intro found
  cases number <;> contradiction

/-- Nothing else is reached from the list. -/
theorem amongNumbered_of_reaches {number other : Value} (simple : number.number?.isSome = true)
    (reached : State.Reaches ⟨.empty, .empty⟩ (numbered number) other) :
    AmongNumbered number other := by
  refine State.Reaches.of_closed AmongNumbered.whole ?_ ?_ reached
  · intro collection items among held item member
    cases among with
    | whole =>
      obtain rfl := Option.some.inj held
      exact List.mem_singleton.mp member ▸ .object
    | object => contradiction
    | number => cases number <;> contradiction
    | numbers =>
      obtain rfl := Option.some.inj held
      exact List.mem_singleton.mp member ▸ .number
  · intro other key result among found
    rw [State.valueForKey] at found
    split at found
    · contradiction
    · next shown =>
      cases among with
      | whole =>
        obtain ⟨value, here, rfl⟩ := State.read_single shown found
        exact State.read_keyed_single here ▸ .numbers
      | object => exact State.read_keyed_single found ▸ .number
      | number => exact absurd found (State.read_number simple key result)
      | numbers =>
        obtain ⟨value, here, -⟩ := State.read_single shown found
        exact absurd here (State.read_number simple key value)

/-- From the list nothing is reached that fails otherwise than by lacking a key. -/
theorem answers_numbered {number : Value} (simple : number.number?.isSome = true) :
    (⟨.empty, .empty⟩ : State).Answers (numbered number) := by
  have bare : ∀ value, AmongNumbered number value →
      ∀ name, State.found? ⟨.empty, .empty⟩ value name = none := by
    intro value among name
    cases among with
    | number => cases number <;> first | contradiction | rfl
    | _ => rfl
  refine ⟨fun other later => ?_, ?_⟩
  · have among := amongNumbered_of_reaches simple later
    refine .of_bare (bare other among) ?_ ?_
    · rintro reference rfl
      cases among with
      | number => contradiction
    · rintro identity missing entries rfl
      cases among with
      | object => exact MissingKey.noConfusion
      | number => contradiction
  · have plain : ∀ value, State.special? ⟨.empty, .empty⟩ value comparisonName = none := by
      intro value
      cases value <;> rfl
    rw [State.objectTest_of_plain plain]
    exact fun a b => FailsOnly.ok

/-- The average of a single whole number fails where the number lies outside the range of floating
numbers. -/
theorem State.aggregate_average_eq_error {state : State} {number : Int}
    (outside : Double.ofQuotient? number 1 = none) :
    state.aggregate [.int number] .average = .error .quotientOverflow := by
  have total : Value.sum state.classOf [.int number] = .ok (.int number) :=
    congrArg (fun number => Except.ok (Value.int number)) (Int.zero_add number)
  change Value.sum state.classOf [.int number] >>= Value.dividedBy state.classOf 1 = _
  rw [total]
  change Value.dividedBy state.classOf 1 (.int number) = _
  rw [Value.dividedBy, outside]

/-- Where a number lies outside that range, its average is no failure of the path. -/
theorem resolvePath_numbered_eq_escaped {state : State} {number : Int}
    (outside : Double.ofQuotient? number 1 = none) :
    state.resolvePath (numbered (.int number)) "@avg.x" = .error (.escaped .quotientOverflow) := by
  have overflows : state.Overflows ["@avg", "x"] (numbered (.int number)) .quotientOverflow :=
    .computing rfl rfl (List.cons_ne_nil _ _) rfl (State.aggregate_average_eq_error outside) rfl
  exact State.resolvePath_eq_escaped.mpr overflows.follow_eq

end Stencil
