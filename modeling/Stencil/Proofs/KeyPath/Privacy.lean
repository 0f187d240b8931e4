import Stencil.Proofs.KeyPath.Erasure
import Stencil.Proofs.KeyPath.Escape

/-!
# Private data is out of reach

Private keys are refused before anything is read, so whatever is read from a value is read from its
erasure as well (`State.reads_erased`). A path whose operators only count or collect therefore ends
alike with and without private data: with the same value, erased, or for the same cause
(`resolvePath_erased`).
-/
namespace Stencil

section Reading

variable {state : State} {value : Value} {key : Text}

/-- What an object that answers look-ups itself has for a key that is not private is the same,
erased. -/
theorem keyedValue_erased (shown : key.startsWith "_" = false) (missing : MissingKey)
    (entries : List (Text × Value)) :
    keyedValue missing (erasedNamed entries) key =
      (keyedValue missing entries key).map Value.erased := by
  unfold keyedValue
  rw [lookup_erasedNamed, shown, if_neg Bool.false_ne_true]
  cases entries.lookup key with
  | some value => rfl
  | none => cases missing <;> rfl

/-- What a mapping has for a key that is not private is the same, erased. -/
theorem mappingValue_erased (shown : key.startsWith "_" = false) (entries : List (Value × Value)) :
    mappingValue (erasedEntries entries) key = (mappingValue entries key).map Value.erased := by
  rw [mappingValue, mappingValue, entryOf?_erasedEntries, shown, if_neg Bool.false_ne_true,
    entryOf?_text]
  cases (entries.find? fun entry => entry.1.text? == some key).map Prod.snd <;> rfl

/-- A look-up that ends in the same way, erased, has the same outcome, erased. -/
theorem answeredLookup_erased (answer : Except Fault Value) :
    answeredLookup key (answer.map Value.erased) = (answeredLookup key answer).map Value.erased := by
  cases answer with
  | ok value => rfl
  | error fault =>
    change answeredLookup key (.error fault) = (answeredLookup key (.error fault)).map Value.erased
    rw [answeredLookup]
    split <;> rfl

/-- Erasing leaves whether a value answers look-ups itself. -/
theorem State.answersLookups_erased (discreet : state.Discreet value) :
    state.erased.answersLookups value.erased = state.answersLookups value := by
  have own : (state.erased.attribute? value.erased lookupMethod).map standsForMethod =
      (state.attribute? value lookupMethod).map standsForMethod := by
    rw [State.attribute?_erased discreet rfl]
    rcases state.attribute? value lookupMethod with fault | _ | found
    · rfl
    · rfl
    · cases found <;> rfl
  unfold State.answersLookups
  cases value with
  | object reference =>
    have declared : ((state.erased.declaredType? reference).bind fun type =>
          state.erased.world.member? type lookupMethod) =
        ((state.declaredType? reference).bind fun type =>
          state.world.member? type lookupMethod).map ClassMember.erased := by
      rw [State.declaredType?_erased, Option.map_bind]
      refine congrArg (Option.bind _) (funext fun type => ?_)
      change (state.world.erased.declared? type lookupMethod).map _ =
        Option.map _ ((state.world.declared? type lookupMethod).map _)
      rw [World.declared?_erased, Option.map_map, Option.map_map]
      rfl
    dsimp only [Value.erased]
    rw [declared]
    rcases (state.declaredType? reference).bind fun type =>
      state.world.member? type lookupMethod with _ | (_ | shared | _ | _)
    · exact own
    · rfl
    · cases shared <;> first | exact own | rfl
    · rfl
    · rfl
  | _ => exact own

/-- What a value answers, or has as an attribute, for a key that is not private is the same,
erased. -/
theorem State.attributeForKey_erased (discreet : state.Discreet value)
    (shown : key.startsWith "_" = false) :
    state.erased.attributeForKey key value.erased =
      (state.attributeForKey key value).map Value.erased := by
  unfold State.attributeForKey
  rw [State.answersLookups_erased discreet]
  rcases told : state.answersLookups value with fault | _ | _
  · rfl
  · dsimp only
    rw [State.readAttribute_erased discreet shown, State.typeName_erased]
    cases state.readAttribute value key with
    | ok own => rfl
    | error fault =>
      change (if fault.isA State.missingClass then _ else _) = Except.map _ (if _ then _ else _)
      split <;> rfl
  · dsimp only
    rw [discreet.answers key shown told, answeredLookup_erased]

/-- What a value has for a key that is not private, and what each of some items has, is the same,
erased. -/
theorem State.reads_erased (state : State) (shown : key.startsWith "_" = false) :
    (∀ value, state.Everywhere value state.Discreet →
        state.erased.read key value.erased = (state.read key value).map Value.erased) ∧
      ∀ items, (∀ item ∈ items, state.Everywhere item state.Discreet) →
        state.erased.readAll key (erasedItems items) =
          (state.readAll key items).map erasedItems := by
  apply State.read.mutual_induct state key
  case case1 =>
    intro identity missing entries discreet
    exact keyedValue_erased shown missing entries
  case case2 =>
    intro entries discreet
    exact mappingValue_erased shown entries
  case case3 | case4 | case5 =>
    intro items each discreet
    rw [Value.erased, State.read, State.read, each (discreet.of_item rfl)]
    cases state.readAll key items <;> rfl
  case case6 =>
    intro discreet
    rfl
  case case7 =>
    intro value no_keyed no_mapping no_list no_tuple no_set no_nothing discreet
    have as_attribute := State.attributeForKey_erased discreet.here shown
    cases value with
    | keyed => exact absurd rfl (no_keyed _ _ _)
    | mapping => exact absurd rfl (no_mapping _)
    | list => exact absurd rfl (no_list _)
    | tuple => exact absurd rfl (no_tuple _)
    | set => exact absurd rfl (no_set _)
    | nothing => exact absurd rfl no_nothing
    | _ => exact as_attribute
  case case8 =>
    intro discreet
    rfl
  case case9 =>
    intro item rest hidden
    exact Bool.noConfusion (hidden.symm.trans shown)
  case case10 =>
    intro item rest hidden here behind discreet
    obtain ⟨first, others⟩ := List.forall_mem_cons.mp discreet
    rw [erasedItems, State.readAll, State.readAll, if_neg hidden, if_neg hidden, here first,
      behind others]
    cases state.read key item with
    | error failure => rfl
    | ok value => cases state.readAll key rest <;> rfl

/-- What a value has for any key is the same, erased: private keys are refused in any case. -/
theorem State.valueForKey_erased (discreet : state.Everywhere value state.Discreet) :
    state.erased.valueForKey key value.erased = (state.valueForKey key value).map Value.erased := by
  rw [State.valueForKey, State.valueForKey]
  cases shown : key.startsWith "_" with
  | true => rfl
  | false => exact (state.reads_erased shown).1 value discreet

end Reading

/-- The operators among some keys only count or collect. -/
def Collects (keys : List Text) : Prop :=
  ∀ name operator, '@' :: name ∈ keys → Aggregate.ofName? name = some operator →
    operator = .count ∨ operator = .union

section Following

variable {state : State} {keys : List Text} {value : Value} {path : Text}

/-- Behind a key, operators only count or collect if they do so among all keys. -/
theorem Collects.tail {key : Text} (collects : Collects (key :: keys)) : Collects keys :=
  fun name operator member => collects name operator (List.mem_cons_of_mem key member)

/-- Keys whose operators only count or collect lead to the same, erased. -/
theorem State.follow_erased (collects : Collects keys)
    (discreet : state.Everywhere value state.Discreet) :
    state.erased.follow keys value.erased = (state.follow keys value).map Value.erased := by
  induction keys, value using State.follow.induct with
  | case1 value => rfl
  | case2 rest value name unknown =>
    rw [State.follow, State.follow, unknown]
    rfl
  | case3 rest value name operator no_items named =>
    rw [State.follow, State.follow, named, Value.items?_erased, no_items]
    change Except.error (PathFailure.refused (.needsCollection name _)) = _
    rw [State.typeName_erased]
    rfl
  | case4 rest value name items held named =>
    rw [State.follow, State.follow, named, Value.items?_erased, held]
    change Except.ok (Value.int (items.map Value.erased).length) = _
    rw [List.length_map]
    rfl
  | case5 rest value name operator items follows held named ended =>
    rw [State.follow, State.follow, named, Value.items?_erased, held]
    cases operator with
    | count => exact absurd rfl follows
    | _ =>
      dsimp only [Option.map_some]
      rw [if_pos ended, if_pos ended]
      rfl
  | case6 rest value name operator items follows held named more ih =>
    have more : rest ≠ [] := fun ended => more (List.isEmpty_iff.mpr ended)
    have held_erased : value.erased.items? = some (items.map Value.erased) := by
      rw [Value.items?_erased, held, Option.map_some]
    have union : operator = .union :=
      (collects name operator List.mem_cons_self named).resolve_left follows
    have each : ∀ item ∈ items, state.erased.follow rest item.erased =
        (state.follow rest item).map Value.erased :=
      fun item member => ih item collects.tail (discreet.of_item held item member)
    rw [State.follow_operator named follows held more,
      State.follow_operator named follows held_erased more, mapM_map_eq_map each, union]
    cases items.mapM (state.follow rest) with
    | error failure => rfl
    | ok found =>
      change Except.ok (Value.list (found.map Value.erased)) = .ok (Value.list (erasedItems found))
      rw [erasedItems_eq_map]
  | case7 rest value key plain ih =>
    have plain : ∀ name, key ≠ '@' :: name := fun name same => plain name same
    rw [State.follow_key plain, State.follow_key plain, State.valueForKey_erased discreet]
    cases read : state.valueForKey key value with
    | error failure => rfl
    | ok next => exact ih next collects.tail (discreet.of_read read)

/-- Keys whose operators only count or collect lead to a value or fail as a path, if all values that
are reached report what they lack as missing. -/
theorem State.follow_refuses (collects : Collects keys)
    (reports : state.Everywhere value state.Reports) : RefusedOnly (state.follow keys value) := by
  induction keys, value using State.follow.induct with
  | case1 value => exact FailsOnly.ok
  | case2 rest value name unknown =>
    rw [State.follow, unknown]
    exact FailsOnly.error ⟨_, rfl⟩
  | case3 rest value name operator no_items named =>
    rw [State.follow, named, no_items]
    exact FailsOnly.error ⟨_, rfl⟩
  | case4 rest value name items held named =>
    rw [State.follow, named, held]
    exact FailsOnly.ok
  | case5 rest value name operator items follows held named ended =>
    rw [State.follow, named, held]
    cases operator with
    | count => exact absurd rfl follows
    | _ =>
      dsimp only
      rw [if_pos ended]
      exact FailsOnly.error ⟨_, rfl⟩
  | case6 rest value name operator items follows held named more ih =>
    have more : rest ≠ [] := fun ended => more (List.isEmpty_iff.mpr ended)
    have union : operator = .union :=
      (collects name operator List.mem_cons_self named).resolve_left follows
    rw [State.follow_operator named follows held more, union]
    refine FailsOnly.bind (FailsOnly.mapM fun item member => ?_) fun _ _ => FailsOnly.ok
    exact ih item collects.tail (reports.of_item held item member)
  | case7 rest value key plain ih =>
    have plain : ∀ name, key ≠ '@' :: name := fun name same => plain name same
    rw [State.follow_key plain]
    refine FailsOnly.bind (State.valueForKey_refuses reports) fun next read => ?_
    exact ih next collects.tail (reports.of_read read)

end Following

/-- Private data is out of reach of a path whose operators only count or collect, where what is
computed on the way does not depend on it: with all private attributes and entries left out, the path
leads to the same value, with them left out, or it ends with the same failure. That failure is one of
the path, if all values that are reached report what they lack as missing. -/
theorem resolvePath_erased (state : State) (value : Value) (path : Text)
    (discreet : state.Everywhere value state.Discreet) (collects : Collects (Text.splitOn "." path)) :
    state.erased.resolvePath value.erased path =
        (state.resolvePath value path).map Value.erased ∧
      (state.Everywhere value state.Reports →
        (∃ result, state.resolvePath value path = .ok result) ∨
          ∃ cause, state.resolvePath value path = .error (.resolution path cause)) := by
  have erased : state.erased.resolve value.erased path =
      (state.resolve value path).map Value.erased := by
    rw [State.resolve, State.resolve]
    split
    · rfl
    · dsimp only
      split
      · rfl
      · exact State.follow_erased collects discreet
  constructor
  · rw [State.resolvePath, State.resolvePath, erased]
    cases state.resolve value path <;> rfl
  · intro reports
    have refuses : RefusedOnly (state.resolve value path) := by
      rw [State.resolve]
      refine FailsOnly.ite (FailsOnly.error ⟨_, rfl⟩) (FailsOnly.ite (FailsOnly.error ⟨_, rfl⟩) ?_)
      exact State.follow_refuses collects reports
    rw [State.resolvePath]
    cases resolved : state.resolve value path with
    | ok result => exact .inl ⟨result, rfl⟩
    | error failure =>
      obtain ⟨cause, rfl⟩ := refuses failure resolved
      exact .inr ⟨cause, rfl⟩

/-! ### An object that answers look-ups -/

/-- One object. Its class has a method that answers every look-up with the attribute of a name. -/
def answering (name : Text) (attributes : List (Text × Value)) : State where
  world := World.empty.declare "Thing" []
    [("value_for_key", .method
      { owner := "Thing"
        name := "value_for_key"
        operation := none
        kind := .ofObject
        parameters := [.self, ⟨"key", .positional, none, none⟩]
        result := none
        body := .steps [.give (.own name)] })]
    []
  heap := .ofObjects [⟨.declared "Thing", attributes⟩]

section Answering

variable {name key : Text} {attributes : List (Text × Value)} {value : Value}

/-- Without private data the object lacks its private attributes. -/
theorem answering_erased :
    (answering name attributes).erased = answering name (erasedNamed attributes) :=
  congrArg (State.mk _) (congrArg (Heap.mk · 0) (List.map_toArray ..))

/-- No property is declared in its class. -/
theorem answering_plain (type owner : Text) (property : Property) :
    (answering name attributes).world.declared? type key ≠ some (owner, .property property) := by
  intro declared
  obtain ⟨info, known, own, among, same⟩ := World.exists_mem_of_declared? declared
  obtain rfl := List.mem_singleton.mp known
  obtain rfl := List.mem_singleton.mp among
  contradiction

/-- A look-up of the object ends as reading the attribute does, unless an attribute of its own hides
the method. -/
theorem answering_answer (unhidden : attributes.lookup lookupMethod = none) :
    (answering name attributes).answer (.object 0) key =
      (answering name attributes).readAttribute (.object 0) name := by
  have method : (answering name attributes).readAttribute (.object 0) lookupMethod =
      .ok (.routine ⟨.method, some "Thing", lookupMethod, some (.object 0)⟩) := by
    change Except.ok ((attributes.lookup lookupMethod).getD _) = _
    rw [unhidden]
    rfl
  rw [State.answer, State.callee, method]
  rfl

/-- The object reports what it lacks as missing. -/
theorem answering_reports (unhidden : attributes.lookup lookupMethod = none) :
    (answering name attributes).Reports (.object 0) where
  keyed := nofun
  tells _ := nofun
  answers key fault _ failed := by
    rw [answering_answer unhidden] at failed
    have missing := State.isA_of_readAttribute_eq_error answering_plain failed
    exact Bool.or_eq_true_iff.mpr (.inr missing)
  reads key fault failed := State.isA_of_readAttribute_eq_error answering_plain failed

/-- What it has for a key is the attribute. -/
theorem answering_read (unhidden : attributes.lookup lookupMethod = none) {result : Value}
    (found : (answering name attributes).valueForKey key (.object 0) = .ok result) :
    (answering name attributes).readAttribute (.object 0) name = .ok result := by
  rw [State.valueForKey] at found
  split at found
  · contradiction
  · change answeredLookup key ((answering name attributes).answer (.object 0) key) = _ at found
    rw [answering_answer unhidden] at found
    cases read : (answering name attributes).readAttribute (.object 0) name with
    | ok own =>
      rw [read] at found
      cases found
      rfl
    | error fault =>
      rw [read, answeredLookup] at found
      split at found <;> cases found

end Answering

/-- A value that answers look-ups itself, with a private entry. -/
def halfOpen : Value := .keyed 0 .key [("_n", .int 6), ("n", .int 5)]

/-- A private attribute, and another one. -/
def halfHidden : List (Text × Value) := [("_x", .int 7), ("x", halfOpen)]

/-- What is reached from a list of an object that answers with its attribute `x`: the object, the
attribute, what that has for `n`, and a list of each. -/
inductive AmongHalfOpen : Value → Prop
  /-- The object. -/
  | object : AmongHalfOpen (.object 0)
  /-- Its attribute. -/
  | keyed : AmongHalfOpen halfOpen
  /-- What the attribute has for `n`. -/
  | number : AmongHalfOpen (.int 5)
  /-- A list of one of them. -/
  | single {value : Value} (among : AmongHalfOpen value) : AmongHalfOpen (.list [value])

/-- Of a private and another entry, a key that is not private has only the other. -/
theorem lookup_pair {hidden name key : Text} {first second value : Value}
    (secret : hidden.startsWith "_" = true) (shown : ¬ key.startsWith "_" = true)
    (found : [(hidden, first), (name, second)].lookup key = some value) : value = second := by
  have other : key ≠ hidden := fun same => shown (same ▸ secret)
  rw [List.lookup_cons, beq_false_of_ne other, List.lookup_cons] at found
  cases same : key == name with
  | true =>
    rw [same] at found
    exact (Option.some.inj found).symm
  | false =>
    rw [same] at found
    cases found

/-- What is reached is closed under reading. -/
theorem AmongHalfOpen.read {value result : Value} {key : Text} (among : AmongHalfOpen value)
    (found : (answering "x" halfHidden).valueForKey key value = .ok result) :
    AmongHalfOpen result := by
  induction among generalizing result with
  | object => exact Except.ok.inj (answering_read rfl found) ▸ .keyed
  | keyed =>
    rw [State.valueForKey] at found
    split at found
    · contradiction
    · next shown =>
      change keyedValue .key _ key = _ at found
      unfold keyedValue at found
      split at found
      · next value held =>
        obtain rfl := Except.ok.inj found
        exact lookup_pair rfl shown held ▸ .number
      · cases found
  | number =>
    rw [State.valueForKey] at found
    split at found <;> cases found
  | single among ih =>
    rw [State.valueForKey] at found
    split at found
    · contradiction
    · next shown =>
      obtain ⟨value, here, rfl⟩ := State.read_single shown found
      exact .single (ih (by rw [State.valueForKey, if_neg shown, here]))

/-- What holds of all values among them holds of every value that is reached. -/
theorem everywhere_half_open {holds : Value → Prop}
    (each : ∀ value, AmongHalfOpen value → holds value) :
    (answering "x" halfHidden).Everywhere (.list [.object 0]) holds := by
  intro other reached
  refine each other (State.Reaches.of_closed (AmongHalfOpen.single .object) ?_ ?_ reached)
  · intro collection items among held item member
    cases among with
    | single among =>
      obtain rfl := Option.some.inj held
      exact List.mem_singleton.mp member ▸ among
    | _ => contradiction
  · exact fun other key result among found => among.read found

/-- None of them depends on private data. -/
theorem AmongHalfOpen.discreet {value : Value} (among : AmongHalfOpen value) :
    (answering "x" halfHidden).Discreet value := by
  cases among with
  | object =>
    refine ⟨fun _ _ _ _ _ _ _ declared => absurd declared (answering_plain _ _ _),
      fun name _ _ => ?_, fun name _ => Language.standard_erased _ name⟩
    change (answering "x" halfHidden).erased.answer (.object 0) name = _
    rw [answering_erased, answering_answer rfl, answering_answer rfl]
    rfl
  | keyed | number | single => exact .of_plain rfl (fun _ _ _ _ => answering_plain _ _ _) nofun

/-- All of them report what they lack as missing. -/
theorem AmongHalfOpen.reports {value : Value} (among : AmongHalfOpen value) :
    (answering "x" halfHidden).Reports value := by
  cases among with
  | object => exact answering_reports rfl
  | keyed =>
    refine .of_bare (fun _ => rfl) nofun fun identity missing entries same => ?_
    cases same
    exact MissingKey.noConfusion
  | number | single => exact .of_bare (fun _ => rfl) nofun nofun

/-- The path collects what the object answers and what that has behind a public name, whether or not
its private attribute and the private entry are left out. -/
theorem resolvePath_erased_half_open :
    (answering "x" halfHidden).Everywhere (.list [.object 0]) (answering "x" halfHidden).Discreet ∧
      (answering "x" halfHidden).Everywhere (.list [.object 0]) (answering "x" halfHidden).Reports ∧
      Collects (Text.splitOn "." "@unionOfObjects.x.n") ∧
      (answering "x" halfHidden).resolvePath (.list [.object 0]) "@unionOfObjects.x.n" =
        .ok (.list [.int 5]) ∧
      (answering "x" halfHidden).erased.resolvePath (.list [.object 0]) "@unionOfObjects.x.n" =
        .ok (.list [.int 5]) ∧
      (answering "x" halfHidden).erased = answering "x" [("x", .keyed 0 .key [("n", .int 5)])] := by
  have discreet := everywhere_half_open fun _ among => among.discreet
  have reports := everywhere_half_open fun _ among => among.reports
  have components : Text.splitOn "." "@unionOfObjects.x.n" = ["@unionOfObjects", "x", "n"] := rfl
  have collects : Collects (Text.splitOn "." "@unionOfObjects.x.n") := by
    intro name operator member named
    rw [components] at member
    rcases List.mem_cons.mp member with same | member
    · obtain rfl := (List.cons.inj same).2
      exact .inr (Option.some.inj named).symm
    · exact absurd member (by simp)
  have resolved : (answering "x" halfHidden).resolvePath (.list [.object 0]) "@unionOfObjects.x.n" =
      .ok (.list [.int 5]) := by
    rw [State.resolvePath, State.resolve, components]
    rfl
  obtain ⟨erased, -⟩ := resolvePath_erased _ _ "@unionOfObjects.x.n" discreet collects
  refine ⟨discreet, reports, collects, resolved, ?_, answering_erased⟩
  rw [resolved] at erased
  exact erased

/-- An object that answers look-ups with a private attribute, and fails in no other way than by
lacking an attribute, shows what is private: a path leads to the attribute, and nowhere if it is left
out. -/
theorem resolvePath_erased_answering :
    (answering "_x" [("_x", .int 7)]).Everywhere (.object 0)
        (answering "_x" [("_x", .int 7)]).Reports ∧
      (answering "_x" [("_x", .int 7)]).erased.Everywhere (.object 0)
        (answering "_x" [("_x", .int 7)]).erased.Reports ∧
      Collects (Text.splitOn "." "x") ∧
      (answering "_x" [("_x", .int 7)]).resolvePath (.object 0) "x" = .ok (.int 7) ∧
      (answering "_x" [("_x", .int 7)]).erased.resolvePath (.object 0) "x" =
        .error (.resolution "x" (.noValue "x" (some "AttributeError"))) := by
  have components : Text.splitOn "." "x" = (["x"] : List Text) := rfl
  have reports : ∀ attributes : List (Text × Value), attributes.lookup lookupMethod = none →
      attributes.lookup ("_x" : Text) = none ∨ attributes.lookup ("_x" : Text) = some (.int 7) →
      (answering "_x" attributes).Everywhere (.object 0) (answering "_x" attributes).Reports := by
    intro attributes unhidden own other reached
    have among : other = .object 0 ∨ other = .int 7 := by
      refine @State.Reaches.of_closed _ _ (fun value => value = .object 0 ∨ value = .int 7)
        (.inl rfl) ?_ ?_ other reached
      · rintro collection items (rfl | rfl) held <;> contradiction
      · rintro value key result (rfl | rfl) found
        · have read := answering_read unhidden found
          change (((attributes.lookup ("_x" : Text)).map Except.ok).or none).getD _ = _ at read
          rcases own with none | some
          · rw [none] at read
            contradiction
          · rw [some] at read
            exact .inr (Except.ok.inj read).symm
        · rw [State.valueForKey] at found
          split at found <;> cases found
    rcases among with rfl | rfl
    · exact answering_reports unhidden
    · exact .of_bare (fun _ => rfl) (fun _ => Value.noConfusion) fun _ _ _ => Value.noConfusion
  refine ⟨reports _ rfl (.inr rfl), ?_, ?_, ?_, ?_⟩
  · rw [answering_erased]
    exact reports _ rfl (.inl rfl)
  · intro name operator member named
    rw [components] at member
    simp at member
  · rw [State.resolvePath, State.resolve, components]
    rfl
  · rw [answering_erased, State.resolvePath, State.resolve, components]
    rfl

end Stencil
