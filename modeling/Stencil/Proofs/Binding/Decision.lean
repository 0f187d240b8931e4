import Stencil.Binding
import Stencil.Settings.Basic
import Stencil.Proofs.Matching.Extraction
import Stencil.Proofs.Outcome

/-!
# How a binding is decided

A binding ends with the first of its stages that fails: matching the text, naming the operation,
describing its arguments, converting their texts from left to right, and carrying the operation out.
`Decided` lists the ways in which a binding ends, each with what rules the earlier ones out and with
the state that the stages leave. `bind_decided` says that a binding ends as listed, and in no other
way; where describing and converting change nothing, all ways but the last leave the state as it was.
-/
namespace Stencil

/-! ### Arguments -/

/-- Texts are converted one after another, each in the state that the one before it leaves. -/
inductive Converted (convert : Converter) :
    List (Text × Expected) → State → List Value → State → Prop
  /-- There is nothing to convert. -/
  | nothing (state : State) : Converted convert [] state [] state
  /-- A text is converted, and those behind it are. -/
  | next {text : Text} {expected : Expected} {rest : List (Text × Expected)} {value : Value}
    {values : List Value} {state middle last : State}
    (here : convert text expected state = (.ok value, middle))
    (behind : Converted convert rest middle values last) :
    Converted convert ((text, expected) :: rest) state (value :: values) last

/-- The first argument that is not converted: its position, its text, what is expected there, the
failure, and the state that it leaves. -/
structure FirstRefusal (convert : Converter) (arguments : List (Text × Expected)) (state : State)
    (position : Nat) (text : Text) (expected : Expected) (failure : Failure) (left : State) :
    Prop where
  /-- The text and what is expected stand at the position. -/
  located : arguments[position]? = some (text, expected)
  /-- All arguments before it are converted, and the text is not. -/
  refused : ∃ values middle, Converted convert (arguments.take position) state values middle ∧
    convert text expected middle = (.error failure, left)

section Arguments

variable {convert : Converter} {arguments rest : List (Text × Expected)} {text : Text}
  {expected : Expected} {state middle left : State} {failure : Failure}

/-- The first argument is the first that is not converted if it is not converted. -/
theorem firstRefusal_zero (refused : convert text expected state = (.error failure, left)) :
    FirstRefusal convert ((text, expected) :: rest) state 0 text expected failure left :=
  ⟨rfl, [], state, .nothing state, refused⟩

/-- An argument that is not converted is the first such, and no other one is. -/
theorem firstRefusal_of_refused {argument : Text} {type : Expected} {cause : Failure} {position : Nat}
    (refused : convert argument type state = (.error cause, middle))
    (first : FirstRefusal convert ((argument, type) :: rest) state position text expected failure
      left) :
    position = 0 ∧ text = argument ∧ expected = type ∧ failure = cause ∧ left = middle := by
  obtain ⟨located, values, last, earlier, refused'⟩ := first
  cases position with
  | zero =>
    obtain ⟨rfl, rfl⟩ := Prod.mk.inj (Option.some.inj located)
    cases earlier
    obtain ⟨⟨⟩, rfl⟩ := Prod.mk.inj (refused.symm.trans refused')
    exact ⟨rfl, rfl, rfl, rfl, rfl⟩
  | succ position =>
    cases earlier with
    | next here behind => exact nomatch refused.symm.trans here

/-- Behind an argument that is converted, the first that is not is that of the rest. -/
theorem firstRefusal_of_converted {argument : Text} {type : Expected} {value : Value} {position : Nat}
    (converted : convert argument type state = (.ok value, middle)) :
    FirstRefusal convert ((argument, type) :: rest) state position text expected failure left ↔
      ∃ behind, position = behind + 1 ∧
        FirstRefusal convert rest middle behind text expected failure left := by
  constructor
  · rintro ⟨located, values, last, earlier, refused⟩
    cases position with
    | zero =>
      obtain ⟨rfl, rfl⟩ := Prod.mk.inj (Option.some.inj located)
      cases earlier
      exact nomatch converted.symm.trans refused
    | succ position =>
      cases earlier with
      | next here behind =>
        obtain ⟨-, rfl⟩ := Prod.mk.inj (converted.symm.trans here)
        exact ⟨position, rfl, located, _, last, behind, refused⟩
  · rintro ⟨position, rfl, located, values, last, earlier, refused⟩
    exact ⟨located, value :: values, last, .next converted earlier, refused⟩

/-- All arguments are converted exactly when they are one after another. -/
theorem convertArguments_eq_ok {position : Nat} {values : List Value} :
    convertArguments convert position arguments state = (.ok values, left) ↔
      Converted convert arguments state values left := by
  induction arguments generalizing position values state with
  | nil =>
    rw [convertArguments]
    constructor
    · rintro ⟨⟩
      exact .nothing _
    · rintro ⟨⟩
      rfl
  | cons argument rest ih =>
    obtain ⟨text, expected⟩ := argument
    rw [convertArguments]
    rcases converted : convert text expected state with ⟨failure | value, middle⟩
    · refine iff_of_false nofun ?_
      rintro (_ | ⟨here, behind⟩)
      exact nomatch converted.symm.trans here
    · dsimp only
      constructor
      · intro all
        rcases later : convertArguments convert (position + 1) rest middle with
          ⟨failure | others, last⟩
        · rw [later] at all
          exact nomatch congrArg Prod.fst all
        · rw [later] at all
          obtain ⟨⟨⟩, rfl⟩ := Prod.mk.inj all
          exact .next converted (ih.mp later)
      · rintro (_ | ⟨here, behind⟩)
        obtain ⟨⟨⟩, rfl⟩ := Prod.mk.inj (converted.symm.trans here)
        rw [ih.mpr behind]

/-- The conversion of arguments fails exactly with the failure of the first one that is not
converted. -/
theorem convertArguments_eq_error {start : Nat} :
    convertArguments convert start arguments state = (.error failure, left) ↔
      ∃ position text expected cause,
        FirstRefusal convert arguments state position text expected cause left ∧
        failure = argumentFailure (start + position) text expected cause := by
  induction arguments generalizing start state with
  | nil =>
    rw [convertArguments]
    refine iff_of_false nofun ?_
    rintro ⟨position, text, expected, cause, first, -⟩
    exact nomatch first.located
  | cons argument rest ih =>
    obtain ⟨text, expected⟩ := argument
    rw [convertArguments]
    rcases converted : convert text expected state with ⟨cause | value, middle⟩
    · dsimp only
      constructor
      · intro failed
        obtain ⟨⟨⟩, rfl⟩ := Prod.mk.inj failed
        exact ⟨0, text, expected, cause, firstRefusal_zero converted, rfl⟩
      · rintro ⟨position, text', expected', cause', first, rfl⟩
        obtain ⟨rfl, rfl, rfl, rfl, rfl⟩ := firstRefusal_of_refused converted first
        rfl
    · have behind : ∀ position, start + 1 + position = start + (position + 1) := by omega
      have later : convertArguments convert (start + 1) rest middle = (.error failure, left) ↔
          ∃ position text' expected' cause,
            FirstRefusal convert ((text, expected) :: rest) state position text' expected' cause
              left ∧ failure = argumentFailure (start + position) text' expected' cause := by
        rw [ih]
        constructor
        · rintro ⟨position, text', expected', cause, first, rfl⟩
          exact ⟨position + 1, text', expected', cause,
            (firstRefusal_of_converted converted).mpr ⟨position, rfl, first⟩, by rw [behind]⟩
        · rintro ⟨_, text', expected', cause, first, rfl⟩
          obtain ⟨position, rfl, of_rest⟩ := (firstRefusal_of_converted converted).mp first
          exact ⟨position, text', expected', cause, of_rest, by rw [behind]⟩
      rw [← later]
      dsimp only
      rcases convertArguments convert (start + 1) rest middle with ⟨other | values, last⟩
      · exact Iff.rfl
      · exact iff_of_false nofun nofun

/-- A conversion only reads the state. -/
def Converter.OnlyReads (convert : Converter) : Prop :=
  ∀ text expected state, (convert text expected state).2 = state

/-- Texts that are converted by reading only leave the state as it was. -/
theorem Converted.left_eq {values : List Value} (converted : Converted convert arguments state values left)
    (reads : convert.OnlyReads) : left = state := by
  induction converted with
  | nothing state => rfl
  | @next text expected rest value values state middle last here behind ih =>
    have same := reads text expected state
    rw [here] at same
    exact ih.trans same

/-- So does the first one that is not converted. -/
theorem FirstRefusal.left_eq {position : Nat}
    (first : FirstRefusal convert arguments state position text expected failure left)
    (reads : convert.OnlyReads) : left = state := by
  obtain ⟨values, middle, earlier, refused⟩ := first.refused
  rw [← earlier.left_eq reads, ← reads text expected middle, refused]

end Arguments

/-! ### Operations -/

/-- A binding carries out an operation: the one asked for, unless its name is empty, or else the
pattern's own. -/
def Pattern.Operates (pattern : Pattern) (asked : Option Text) (name : Text) : Prop :=
  asked = some name ∧ name ≠ [] ∨ asked.getD [] = [] ∧ pattern.operation? = some name

section Operations

variable {pattern : Pattern} {asked : Option Text}

/-- The operation of a binding is the one that it carries out. -/
theorem Pattern.operationFor?_eq_some {name : Text} :
    pattern.operationFor? asked = some name ↔ pattern.Operates asked name := by
  match asked with
  | none => simp [operationFor?, Operates]
  | some [] => simp [operationFor?, Operates]
  | some (char :: rest) =>
    have own : pattern.operationFor? (some (char :: rest)) = some (char :: rest) := rfl
    rw [own]
    constructor
    · intro same
      exact .inl ⟨same, Option.some.inj same ▸ List.cons_ne_nil char rest⟩
    · rintro (⟨same, -⟩ | ⟨empty, -⟩)
      · exact same
      · exact absurd empty (List.cons_ne_nil char rest)

/-- A binding has no operation exactly when none is asked for and the pattern has none. -/
theorem Pattern.operationFor?_eq_none :
    pattern.operationFor? asked = none ↔ asked.getD [] = [] ∧ pattern.operation? = none := by
  match asked with
  | none => simp [operationFor?]
  | some [] => simp [operationFor?]
  | some (char :: rest) => exact iff_of_false nofun fun ⟨empty, _⟩ => nomatch empty

end Operations

/-! ### Bindings -/

/-- What a binding knows before it converts texts: the texts of the parameters, the operation, what
each of its arguments is expected to be, and the state that describing them leaves. -/
structure Prepared (pattern : Pattern) (text : Text) (target : Value) (asked : Option Text)
    (invoker : Invoker) (state : State) (name : Text) (texts : List Text)
    (expected : List Expected) (ready : State) : Prop where
  /-- The parameters take the texts. -/
  matched : pattern.extract text = some texts
  /-- The operation is to be carried out. -/
  named : pattern.Operates asked name
  /-- The invoker describes the arguments of the operation. -/
  described : invoker.argumentTypes target name texts.length state = (.ok expected, ready)
  /-- There are as many arguments as texts. -/
  counted : expected.length = texts.length

/-- The ways in which a binding ends, with the outcome and the state that it leaves. -/
inductive Decided (pattern : Pattern) (text : Text) (target : Value) (asked : Option Text)
    (invoker : Invoker) (convert : Converter) (state : State) : Outcome Value × State → Prop
  /-- The text does not conform to the pattern. -/
  | nonConforming (unmatched : pattern.extract text = none) :
    Decided pattern text target asked invoker convert state
      (.error (.nonConforming pattern.template text), state)
  /-- No operation is asked for, and the pattern has none. -/
  | noOperation {texts : List Text} (matched : pattern.extract text = some texts)
    (unasked : asked.getD [] = []) (unnamed : pattern.operation? = none) :
    Decided pattern text target asked invoker convert state
      (.error (.noOperation pattern.template), state)
  /-- The invoker does not describe the arguments of the operation. -/
  | undescribed {texts : List Text} {name : Text} {failure : Failure} {left : State}
    (matched : pattern.extract text = some texts) (named : pattern.Operates asked name)
    (refused : invoker.argumentTypes target name texts.length state = (.error failure, left)) :
    Decided pattern text target asked invoker convert state (.error failure, left)
  /-- The invoker describes another number of arguments. -/
  | miscounted {texts : List Text} {name : Text} {expected : List Expected} {left : State}
    (matched : pattern.extract text = some texts) (named : pattern.Operates asked name)
    (described : invoker.argumentTypes target name texts.length state = (.ok expected, left))
    (differs : expected.length ≠ texts.length) :
    Decided pattern text target asked invoker convert state
      (.error (.invocation name (.describedCount expected.length texts.length)), left)
  /-- The conversion of an argument is refused; it is the first one that fails. -/
  | refused {texts : List Text} {name : Text} {expected : List Expected} {position : Nat}
    {argument : Text} {type : Expected} {cause : ConversionFault} {label : Text}
    {ready left : State}
    (prepared : Prepared pattern text target asked invoker state name texts expected ready)
    (first : FirstRefusal convert (texts.zip expected) ready position argument type
      (.conversion cause) left)
    (labelled : type.name = .ok label) :
    Decided pattern text target asked invoker convert state
      (.error (.argument position argument label cause), left)
  /-- The conversion of an argument is refused, the first one that fails, and what is expected there
  has no name. -/
  | unlabelled {texts : List Text} {name : Text} {expected : List Expected} {position : Nat}
    {argument : Text} {type : Expected} {cause : ConversionFault} {fault : Fault}
    {ready left : State}
    (prepared : Prepared pattern text target asked invoker state name texts expected ready)
    (first : FirstRefusal convert (texts.zip expected) ready position argument type
      (.conversion cause) left)
    (nameless : type.name = .error fault) :
    Decided pattern text target asked invoker convert state (.error (.escaped fault), left)
  /-- The conversion of an argument, the first one that fails, does not end as a refusal. -/
  | escaped {texts : List Text} {name : Text} {expected : List Expected} {position : Nat}
    {argument : Text} {type : Expected} {failure : Failure} {ready left : State}
    (prepared : Prepared pattern text target asked invoker state name texts expected ready)
    (first : FirstRefusal convert (texts.zip expected) ready position argument type failure left)
    (other : ∀ cause, failure ≠ .conversion cause) :
    Decided pattern text target asked invoker convert state (.error failure, left)
  /-- The operation is carried out with the converted arguments, in order. -/
  | performed {texts : List Text} {name : Text} {expected : List Expected} {values : List Value}
    {ready left : State}
    (prepared : Prepared pattern text target asked invoker state name texts expected ready)
    (converted : Converted convert (texts.zip expected) ready values left) :
    Decided pattern text target asked invoker convert state
      (invoker.invoke target name values left)

section Bindings

variable {pattern : Pattern} {text : Text} {target : Value} {asked : Option Text}
  {invoker : Invoker} {convert : Converter} {state ready left : State}

/-- A refused conversion is reported with its position where what is expected has a name. -/
theorem argumentFailure_refused {position : Nat} {argument label : Text} {type : Expected}
    (cause : ConversionFault) (labelled : type.name = .ok label) :
    argumentFailure position argument type (.conversion cause) =
      .argument position argument label cause := by
  rw [argumentFailure, labelled]

/-- A refused conversion ends in the fault of the name where what is expected has none. -/
theorem argumentFailure_unlabelled {position : Nat} {argument : Text} {type : Expected}
    {fault : Fault} (cause : ConversionFault) (nameless : type.name = .error fault) :
    argumentFailure position argument type (.conversion cause) = .escaped fault := by
  rw [argumentFailure, nameless]

/-- A failure that is no refused conversion is passed on. -/
theorem argumentFailure_escaped {position : Nat} {argument : Text} {type : Expected}
    {failure : Failure} (other : ∀ cause, failure ≠ .conversion cause) :
    argumentFailure position argument type failure = failure := by
  rw [argumentFailure]
  exact other

/-- What fails before the operation is carried out ends the binding. -/
theorem bind_of_refused {failure : Failure}
    (refused : prepareBinding pattern text target asked invoker convert state =
      (.error failure, left)) :
    Stencil.bind pattern text target asked invoker convert state = (.error failure, left) := by
  rw [Stencil.bind, refused]

/-- Once the operation is known, its arguments are described. -/
theorem prepareBinding_of_operates {texts : List Text} {name : Text}
    (matched : pattern.extract text = some texts) (named : pattern.Operates asked name) :
    prepareBinding pattern text target asked invoker convert state =
      match invoker.argumentTypes target name texts.length state with
      | (.error failure, state) => (.error failure, state)
      | (.ok expected, state) =>
        if expected.length ≠ texts.length then
          (.error (.invocation name (.describedCount expected.length texts.length)), state)
        else
          match convertArguments convert 0 (texts.zip expected) state with
          | (.error failure, state) => (.error failure, state)
          | (.ok values, state) => (.ok (name, values), state) := by
  rw [prepareBinding, matched]
  dsimp only
  rewrite [Pattern.operationFor?_eq_some.mpr named]
  rfl

/-- Once the arguments are described and counted, they are converted. -/
theorem prepareBinding_of_prepared {name : Text} {texts : List Text} {expected : List Expected}
    (prepared : Prepared pattern text target asked invoker state name texts expected ready) :
    prepareBinding pattern text target asked invoker convert state =
      match convertArguments convert 0 (texts.zip expected) ready with
      | (.error failure, state) => (.error failure, state)
      | (.ok values, state) => (.ok (name, values), state) := by
  rw [prepareBinding_of_operates prepared.matched prepared.named, prepared.described]
  exact if_neg (not_not.mpr prepared.counted)

/-- A binding ends with the failure of the first argument that is not converted. -/
theorem bind_of_firstRefusal {name : Text} {texts : List Text} {expected : List Expected}
    {position : Nat} {argument : Text} {type : Expected} {failure : Failure}
    (prepared : Prepared pattern text target asked invoker state name texts expected ready)
    (first : FirstRefusal convert (texts.zip expected) ready position argument type failure left) :
    Stencil.bind pattern text target asked invoker convert state =
      (.error (argumentFailure position argument type failure), left) := by
  have failed : convertArguments convert 0 (texts.zip expected) ready =
      (.error (argumentFailure position argument type failure), left) := by
    rw [convertArguments_eq_error]
    exact ⟨position, argument, type, failure, first, by rw [Nat.zero_add]⟩
  exact bind_of_refused (by rw [prepareBinding_of_prepared prepared, failed])

/-- A binding ends as it is decided. -/
theorem Decided.bind_eq {result : Outcome Value × State}
    (decided : Decided pattern text target asked invoker convert state result) :
    Stencil.bind pattern text target asked invoker convert state = result := by
  cases decided with
  | nonConforming unmatched => exact bind_of_refused (by rw [prepareBinding, unmatched])
  | noOperation matched unasked unnamed =>
    have nameless := Pattern.operationFor?_eq_none.mpr ⟨unasked, unnamed⟩
    exact bind_of_refused (by rw [prepareBinding, matched, nameless])
  | undescribed matched named refused =>
    exact bind_of_refused (by rw [prepareBinding_of_operates matched named, refused])
  | miscounted matched named described differs =>
    refine bind_of_refused ?_
    rw [prepareBinding_of_operates matched named, described]
    exact if_pos differs
  | refused prepared first labelled =>
    rw [bind_of_firstRefusal prepared first, argumentFailure_refused _ labelled]
  | unlabelled prepared first nameless =>
    rw [bind_of_firstRefusal prepared first, argumentFailure_unlabelled _ nameless]
  | escaped prepared first other =>
    rw [bind_of_firstRefusal prepared first, argumentFailure_escaped other]
  | performed prepared converted =>
    rw [Stencil.bind, prepareBinding_of_prepared prepared, convertArguments_eq_ok.mpr converted]

/-- Every first argument that is not converted decides a binding. -/
theorem decided_of_firstRefusal {name : Text} {texts : List Text} {expected : List Expected}
    {position : Nat} {argument : Text} {type : Expected} {failure : Failure}
    (prepared : Prepared pattern text target asked invoker state name texts expected ready)
    (first : FirstRefusal convert (texts.zip expected) ready position argument type failure left) :
    ∃ result, Decided pattern text target asked invoker convert state result := by
  by_cases refusal : ∃ cause, failure = .conversion cause
  · obtain ⟨cause, rfl⟩ := refusal
    cases labelled : type.name with
    | ok label => exact ⟨_, .refused prepared first labelled⟩
    | error fault => exact ⟨_, .unlabelled prepared first labelled⟩
  · exact ⟨_, .escaped prepared first (not_exists.mp refusal)⟩

variable (pattern text target asked invoker convert state) in
/-- Every binding is decided. -/
theorem exists_decided :
    ∃ result, Decided pattern text target asked invoker convert state result := by
  cases matched : pattern.extract text with
  | none => exact ⟨_, .nonConforming matched⟩
  | some texts =>
    cases operation : pattern.operationFor? asked with
    | none =>
      obtain ⟨unasked, unnamed⟩ := Pattern.operationFor?_eq_none.mp operation
      exact ⟨_, .noOperation matched unasked unnamed⟩
    | some name =>
      have named := Pattern.operationFor?_eq_some.mp operation
      rcases described : invoker.argumentTypes target name texts.length state with
        ⟨failure | expected, ready⟩
      · exact ⟨_, .undescribed matched named described⟩
      · by_cases counted : expected.length = texts.length
        · have prepared :
              Prepared pattern text target asked invoker state name texts expected ready :=
            ⟨matched, named, described, counted⟩
          rcases converted : convertArguments convert 0 (texts.zip expected) ready with
            ⟨failure | values, left⟩
          · obtain ⟨position, argument, type, cause, first, -⟩ :=
              convertArguments_eq_error.mp converted
            exact decided_of_firstRefusal prepared first
          · exact ⟨_, .performed prepared (convertArguments_eq_ok.mp converted)⟩
        · exact ⟨_, .miscounted matched named described counted⟩

/-- An invoker describes arguments by reading the state only. -/
def Invoker.OnlyReads (invoker : Invoker) : Prop :=
  ∀ target name count state, (invoker.argumentTypes target name count state).2 = state

/-- Arguments that are described by reading only leave the state as it was. -/
theorem Invoker.OnlyReads.left_eq {name : Text} {count : Nat} {outcome : Outcome (List Expected)}
    (reads : invoker.OnlyReads)
    (described : invoker.argumentTypes target name count state = (outcome, left)) :
    left = state := by
  rw [← reads target name count state, described]

/-- Where describing and converting only read, a binding leaves the state as it was, unless it carries
the operation out in that state. -/
theorem Decided.left_eq {result : Outcome Value × State}
    (decided : Decided pattern text target asked invoker convert state result)
    (describes : invoker.OnlyReads) (converts : convert.OnlyReads) :
    result.2 = state ∨ ∃ texts name expected values,
      Prepared pattern text target asked invoker state name texts expected state ∧
        Converted convert (texts.zip expected) state values state ∧
        result = invoker.invoke target name values state := by
  cases decided with
  | nonConforming | noOperation => exact .inl rfl
  | undescribed _ _ described | miscounted _ _ described _ =>
    exact .inl (describes.left_eq described)
  | refused prepared first | unlabelled prepared first | escaped prepared first =>
    exact .inl ((first.left_eq converts).trans (describes.left_eq prepared.described))
  | @performed texts name expected values ready left prepared converted =>
    obtain rfl := describes.left_eq prepared.described
    obtain rfl := converted.left_eq converts
    exact .inr ⟨texts, name, expected, values, prepared, converted, rfl⟩

end Bindings

/-- A binding ends in one of the ways listed, and in no other: with the failure of the first stage
that fails, or as the operation ends that is carried out once with all converted arguments. Where
describing the arguments and converting the texts only read the state, a binding that does not carry
the operation out leaves the state as it was, and one that does carries it out in that state. -/
theorem bind_decided (pattern : Pattern) (text : Text) (target : Value) (asked : Option Text)
    (invoker : Invoker) (convert : Converter) (state : State) (result : Outcome Value × State) :
    (bind pattern text target asked invoker convert state = result ↔
      Decided pattern text target asked invoker convert state result) ∧
    (invoker.OnlyReads → convert.OnlyReads →
      bind pattern text target asked invoker convert state = result →
      result.2 = state ∨ ∃ texts name expected values,
        Prepared pattern text target asked invoker state name texts expected state ∧
          Converted convert (texts.zip expected) state values state ∧
          result = invoker.invoke target name values state) := by
  have ends : ∀ result, bind pattern text target asked invoker convert state = result →
      Decided pattern text target asked invoker convert state result := by
    rintro result rfl
    obtain ⟨result, decided⟩ :=
      exists_decided pattern text target asked invoker convert state
    rwa [decided.bind_eq]
  exact ⟨⟨ends result, Decided.bind_eq⟩,
    fun describes converts ended => (ends result ended).left_eq describes converts⟩

/-- An object with a method that expects a list itself, in place of a type. -/
def listMarking : State where
  world := World.empty.declare "Thing" []
    [("mark", .method
      { owner := "Thing"
        name := "mark"
        operation := none
        kind := .ofObject
        parameters := [.self, ⟨"a", .positional, some ⟨.constant (.list [.int 1]), true⟩, none⟩]
        result := none
        body := .steps [.assign "x" (.argument "a")] })]
    []
  heap := .ofObjects [⟨.declared "Thing", []⟩]

/-- The initial conversions do not refuse every text that they do not convert: a list in place of a
type cannot be looked up among the readers, and the binding ends with that fault, though the text
conforms and the argument is described, and though no failure of an argument is reported. -/
theorem bind_list_unhashable :
    ∃ pattern, Settings.initial.compile "(mark:)" = .ok pattern ∧
      Prepared pattern "v" (.object 0) none pattern.convention.invoker listMarking "mark:" ["v"]
        [.constant (.list [.int 1])] listMarking ∧
      (∀ cause, ConversionTable.initial.convert "v" (.constant (.list [.int 1])) ≠
        .error (.conversion cause)) ∧
      bind pattern "v" (.object 0) none pattern.convention.invoker
        ConversionTable.initial.converter listMarking =
          (.error (.escaped (.unhashable "list")), listMarking) ∧
      (Failure.escaped (.unhashable "list")).kind = "TypeError" ∧
      ∀ position argument label cause,
        Failure.escaped (.unhashable "list") ≠ .argument position argument label cause := by
  have prepared : Prepared ⟨"(mark:)", [.parameter "mark:"], .outbound, ":", "init"⟩ "v" (.object 0)
      none (Convention.invoker ⟨":", "init"⟩) listMarking "mark:" ["v"]
      [.constant (.list [.int 1])] listMarking :=
    ⟨matchSegments_alone _ _, .inr ⟨rfl, rfl⟩, rfl, rfl⟩
  have first : FirstRefusal ConversionTable.initial.converter
      [("v", .constant (.list [.int 1]))] listMarking 0 "v" (.constant (.list [.int 1]))
      (.escaped (.unhashable "list")) listMarking := firstRefusal_zero rfl
  refine ⟨_, rfl, prepared, nofun, ?_, rfl, nofun⟩
  exact (Decided.escaped prepared first nofun).bind_eq

end Stencil
