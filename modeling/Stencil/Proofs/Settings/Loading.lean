import Stencil.Proofs.KeyPath.Mapping
import Stencil.Proofs.Settings.Names
import Stencil.Proofs.Value.Faults
import Stencil.Proofs.Value.Number

/-!
# Loading settings

A file gives settings exactly if its document is a mapping of known names, or nothing at all, and the
settings are acceptable (`Settings.Acceptable`). Otherwise loading fails as with a file that holds no
settings, but for a key that is no text: it fails as one of a wrong type, with a fault that nothing
answers for (`Settings.load_decided`).
-/
namespace Stencil

/-! ### Characters of a value -/

/-- A character can be looked for in a value, and is not part of it. -/
def Value.Lacks (char : Char) : Value → Prop
  | .text content => char ∉ content
  | .list items | .tuple items | .set items => .text [char] ∉ items
  | .mapping entries => .text [char] ∉ entries.map Prod.fst
  | _ => False

/-- A value has no text exactly if it is none. -/
theorem Value.text?_eq_none {value : Value} :
    value.text? = none ↔ ¬ ∃ content, value = .text content := by
  cases value <;> simp [text?]

/-- A test holds of none of some items exactly if it refuses all of them. -/
theorem holdsOfSome_eq_false {α : Type} {test : α → Except Fault Bool} {items : List α} :
    holdsOfSome test items = .ok false ↔ ∀ item ∈ items, test item = .ok false := by
  induction items with
  | nil => simp [holdsOfSome]
  | cons item rest ih =>
    rw [holdsOfSome, bind_eq_ok, List.forall_mem_cons, ← ih]
    constructor
    · rintro ⟨truth, tested, later⟩
      cases truth with
      | true => exact Bool.noConfusion (Except.ok.inj later)
      | false => exact ⟨tested, later⟩
    · rintro ⟨tested, later⟩
      exact ⟨false, tested, later⟩

/-- Comparing a value with a text refuses it exactly if it is another value. -/
theorem Value.same_text_eq_false {value : Value} {content : Text} :
    Value.same value (.text content) = .ok false ↔ value ≠ .text content := by
  rw [Value.same_text]
  cases value <;> simp [Value.text?]

namespace Settings

/-- Looking for a character finds nothing exactly if the value lacks it. -/
theorem holdsChar_eq_false {char : Char} {value : Value} :
    holdsChar char value = .ok false ↔ value.Lacks char := by
  cases value with
  | text content => simp [holdsChar, Value.Lacks]
  | list items | tuple items | set items =>
    rw [holdsChar, holdsOfSome_eq_false, Value.Lacks]
    simp only [Value.same_text_eq_false]
    exact ⟨fun each member => each _ member rfl, fun none item member same => none (same ▸ member)⟩
  | mapping entries =>
    rw [holdsChar, holdsOfSome_eq_false, Value.Lacks, List.mem_map]
    simp only [Value.same_text_eq_false]
    exact ⟨fun each ⟨entry, member, same⟩ => each entry member same,
      fun none entry member same => none ⟨entry, member, same⟩⟩
  | _ => simp [holdsChar, Value.Lacks]

/-- Looking for a character fails only in a value of a wrong type. -/
theorem holdsChar_fails (char : Char) (value : Value) :
    FailsOnly Fault.OfType (holdsChar char value) := by
  have compared : ∀ item : Value, FailsOnly Fault.OfType (Value.same item (.text [char])) := by
    intro item
    rw [Value.same_text]
    exact .ok
  cases value with
  | text content => exact .ok
  | list items | tuple items | set items => exact holdsOfSome_fails compared _
  | mapping entries => exact holdsOfSome_fails (fun entry : Value × Value => compared entry.1) _
  | _ => exact .error rfl

end Settings

/-! ### Numbers that are not negative -/

/-- A value is a number that is not negative: its value is not below zero, or it is an undefined
floating number. -/
def Value.IsCount (value : Value) : Prop :=
  ∃ number, value.number? = some number ∧
    ((∃ identity, number = .double (.undefined identity)) ∨
      ∃ amount, number.value? = some amount ∧ .ofRat 0 ≤ amount)

/-- A number is put before zero, or not, by its value. -/
theorem Number.ordered_zero_eq_false {number : Number} :
    number.ordered .less (.int 0) = .ok false ↔
      (∃ identity, number = .double (.undefined identity)) ∨
        ∃ amount, number.value? = some amount ∧ .ofRat 0 ≤ amount := by
  have zero : (Number.int 0).value? = some (.ofRat 0) := by simp [Number.value?]
  cases held : number.value? with
  | some amount =>
    obtain ⟨truth, decided, right⟩ := Number.ordered_of_values .less held zero
    have defined : ¬ ∃ identity, number = .double (.undefined identity) := by
      rintro ⟨identity, rfl⟩
      contradiction
    rw [decided, or_iff_right defined]
    have not_below : truth = false ↔ .ofRat 0 ≤ amount := by
      rw [← not_lt, ← Bool.not_eq_true]
      exact not_congr right
    simp [not_below]
  | none =>
    have undefined : number.magnitude? = none := by
      rcases Number.magnitude?_spec number with ⟨none, -⟩ | ⟨magnitude, -, -, stands⟩
      · exact none
      · rw [held] at stands
        contradiction
    rw [Number.ordered, undefined]
    cases number with
    | int number => contradiction
    | double number => cases number <;> simp [Number.value?, Number.isDecimal] at held ⊢
    | decimal number => simp [Number.isDecimal]

namespace Settings

/-- A value is found not to be negative exactly if it is such a number. -/
theorem isNegative_eq_false {value : Value} : isNegative value = .ok false ↔ value.IsCount := by
  rw [isNegative, Value.IsCount]
  cases held : value.number? with
  | none => simp
  | some number => simp [Number.ordered_zero_eq_false]

/-- A value that a document can have has no decimal as its number. -/
theorem number_of_document {value : Value} (document : value.IsDocument) {number : Number}
    (held : value.number? = some number) : number.isDecimal = false := by
  cases document with
  | scalar plain => exact plain.number held
  | _ => contradiction

/-- A value of a document is asked for its sign in vain only where it is of a wrong type. -/
theorem isNegative_fails {value : Value} (document : value.IsDocument) :
    FailsOnly Fault.OfType (isNegative value) := by
  rw [isNegative]
  cases held : value.number? with
  | none => exact .error rfl
  | some number =>
    obtain ⟨truth, decided⟩ :=
      Number.ordered_eq_ok (b := .int 0) .less (number_of_document document held) rfl
    show FailsOnly Fault.OfType (number.ordered .less (.int 0))
    rw [decided]
    exact .ok

/-! ### Acceptable settings -/

/-- Settings that pass the checks. The marker is not empty and has no parentheses: it is a text, or
a collection without them as its items. The beginning of constructing operations is anything that is
not empty. How many patterns are remembered is a number that is not negative, and the level of
messages is the name of one, in capitals or not. Whether unbalanced parentheses are refused is not
checked. -/
structure Acceptable (settings : Settings) : Prop where
  /-- The marker is not empty. -/
  marker : settings.marker.isTruthy = true
  /-- The marker has no parentheses. -/
  unbracketed : ∀ char ∈ ['(', ')'], settings.marker.Lacks char
  /-- The beginning of constructing operations is not empty. -/
  construction : settings.construction.isTruthy = true
  /-- So many patterns can be remembered. -/
  cacheSize : settings.cacheSize.IsCount
  /-- There is a level of messages of the name. -/
  logLevel : ∃ name, settings.logLevel = .text name ∧ Text.upper name ∈ levelNames

/-- In capitals a value is one of the names of levels exactly if it is such a text. -/
theorem inCapitals_named {value level : Value} (changed : inCapitals value = .ok level) :
    level.text?.any levelNames.contains = true ↔
      ∃ name, value = .text name ∧ Text.upper name ∈ levelNames := by
  cases value with
  | text content =>
    obtain rfl := Except.ok.inj changed
    simp [Value.text?]
  | bytes content =>
    obtain rfl := Except.ok.inj changed
    simp [Value.text?]
  | _ => contradiction

/-- Settings are found to have no problems exactly if they are acceptable. -/
theorem problems_eq_nil {settings : Settings} :
    settings.problems = .ok [] ↔ settings.Acceptable := by
  constructor
  · intro none
    obtain ⟨bracketed, looked, none⟩ := bind_eq_ok.mp none
    obtain ⟨negative, signed, none⟩ := bind_eq_ok.mp none
    obtain ⟨level, changed, none⟩ := bind_eq_ok.mp none
    obtain ⟨shown, -, none⟩ := bind_eq_ok.mp none
    have none := Except.ok.inj none
    simp only [List.append_eq_nil_iff, ite_eq_right_iff, List.cons_ne_nil, imp_false,
      Bool.not_eq_true, Bool.not_eq_false'] at none
    obtain ⟨⟨⟨⟨marked, rfl⟩, constructs⟩, rfl⟩, known⟩ := none
    constructor
    · exact marked
    · exact fun char member => holdsChar_eq_false.mp (holdsOfSome_eq_false.mp looked char member)
    · exact constructs
    · exact isNegative_eq_false.mp signed
    · exact (inCapitals_named changed).mp known
  · intro acceptable
    obtain ⟨name, named, known⟩ := acceptable.logLevel
    have looked : holdsOfSome (fun char => holdsChar char settings.marker) ['(', ')'] = .ok false :=
      holdsOfSome_eq_false.mpr fun char member =>
        holdsChar_eq_false.mpr (acceptable.unbracketed char member)
    have signed := isNegative_eq_false.mpr acceptable.cacheSize
    have changed : inCapitals settings.logLevel = .ok (.text (Text.upper name)) := by
      rw [named]
      rfl
    have shown : settings.logLevel.shown = .ok name := by
      rw [named]
      rfl
    have is_known := (inCapitals_named changed).mpr ⟨name, named, known⟩
    rw [problems, looked, signed, changed, shown]
    apply congrArg Except.ok
    rw [acceptable.marker, acceptable.construction, is_known]
    rfl

/-- A fault that the check of settings answers for: of a value of a wrong type, or without the
attribute of a text. -/
def IsAnswered (fault : Fault) : Prop := fault.kind = "TypeError" ∨ fault.kind = "AttributeError"

/-- Settings whose number of patterns comes from a document are checked, or have a value of a wrong
type. -/
theorem problems_fails {settings : Settings} (document : settings.cacheSize.IsDocument) :
    FailsOnly IsAnswered settings.problems := by
  have of_type : ∀ {α : Type} {step : Except Fault α}, FailsOnly Fault.OfType step →
      FailsOnly IsAnswered step := fun fails => fails.mono fun _ => Or.inl
  refine (of_type (holdsOfSome_fails (fun char => holdsChar_fails char _) _)).bind fun _ _ => ?_
  refine (of_type (isNegative_fails document)).bind fun _ _ => ?_
  -- Only texts and bytes have capitals, and both can be shown.
  cases settings.logLevel with
  | text content => exact .ok
  | bytes content => exact .ok
  | _ => exact .error (.inr rfl)

/-! ### Settings of entries -/

/-- Settings of which each value is so stay so where a value that is so is set. -/
theorem each_of_set? {holds : Value → Prop} {settings changed : Settings} {name : Text}
    {value : Value} (each : ∀ entry ∈ settings.entries, holds entry.2) (here : holds value)
    (set : settings.set? name value = some changed) : ∀ entry ∈ changed.entries, holds entry.2 := by
  unfold set? at set
  simp only [entries, List.forall_mem_cons] at each
  split_ifs at set
  all_goals
    obtain rfl := Option.some.inj set
    simp [entries, each, here]

/-- Each value of settings that entries give is so, if those of the initial settings and those of the
entries are. -/
theorem each_of_ofKnown {holds : Value → Prop} {given : List (Value × Value)}
    (initially : ∀ entry ∈ initial.entries, holds entry.2)
    (each : ∀ entry ∈ given, holds entry.2) :
    ∀ entry ∈ (ofKnown given).entries, holds entry.2 := by
  unfold ofKnown
  apply List.foldlRecOn (motive := fun settings : Settings =>
    ∀ entry ∈ settings.entries, holds entry.2)
  · exact initially
  · intro settings fine entry member
    cases changed : entry.1.text?.bind fun name => settings.set? name entry.2 with
    | none => simpa [changed] using fine
    | some settings' =>
      obtain ⟨name, -, set⟩ := Option.bind_eq_some_iff.mp changed
      simpa [changed] using each_of_set? fine (each entry member) set

/-- The number of patterns that a document gives is a value of a document. -/
theorem isDocument_cacheSize {given : List (Value × Value)}
    (document : (Value.mapping given).IsDocument) : (ofKnown given).cacheSize.IsDocument := by
  have values : ∀ entry ∈ given, entry.2.IsDocument := by
    cases document with
    | mapping _ values => exact values
    | scalar plain => contradiction
  have initially : ∀ entry ∈ initial.entries, entry.2.IsDocument := by
    simp only [entries, initial, List.forall_mem_cons, List.not_mem_nil, false_implies,
      implies_true, and_true]
    exact ⟨.scalar (.text _), .scalar (.text _), .scalar (.flag _), .scalar (.int _),
      .scalar (.text _)⟩
  have each := each_of_ofKnown initially values
  exact each ("cache_size", (ofKnown given).cacheSize) (by simp [entries])

/-! ### Loading -/

section Loading

variable {path : Text} {value : Value} {given : List (Value × Value)}

/-- The entries that a value from a file gives: those of a mapping, and none where there is
nothing. -/
def given? : Value → Option (List (Value × Value))
  | .nothing => some []
  | .mapping entries => some entries
  | _ => none

/-- A value that gives no entries holds no settings. -/
theorem ofValue_of_none (none : given? value = none) :
    ofValue path value = .error (.settings path .notMapping) := by
  cases value <;> first | rfl | contradiction

/-- Settings from a file, if they have no problems. -/
def checked (path : Text) (settings : Settings) : Outcome Settings :=
  match settings.problems with
  | .error fault => .error (.settings path (.illTyped fault))
  | .ok [] => .ok settings
  | .ok problems => .error (.settings path (.problems problems))

/-- Settings from a file are taken exactly if they are acceptable. -/
theorem checked_eq_ok {settings result : Settings} :
    checked path settings = .ok result ↔ result = settings ∧ settings.Acceptable := by
  rw [checked, ← problems_eq_nil]
  rcases settings.problems with fault | (_ | ⟨problem, problems⟩) <;> simp [eq_comm]

/-- How loading settings may fail: as with a file that holds none, and with no other fault behind it
than those that the check answers for. -/
def IsRefusal (path : Text) (failure : Failure) : Prop :=
  ∃ cause, failure = .settings path cause ∧ ∀ fault, cause = .illTyped fault → IsAnswered fault

/-- Settings whose number of patterns comes from a document are taken or refused. -/
theorem checked_fails {settings : Settings} (document : settings.cacheSize.IsDocument) :
    FailsOnly (IsRefusal path) (checked path settings) := by
  have answered := problems_fails document
  rw [checked]
  cases outcome : settings.problems with
  | error fault =>
    refine .error ⟨_, rfl, ?_⟩
    intro other same
    rw [← SettingsFault.illTyped.inj same]
    exact answered fault outcome
  | ok problems =>
    cases problems with
    | nil => exact .ok
    | cons problem problems => exact .error ⟨_, rfl, nofun⟩

/-- The given entries are searched for unknown names, and the settings that they give are checked. -/
theorem ofValue_of_given (found : given? value = some given) :
    ofValue path value = (unknownNames given).mapError .escaped >>= fun unknown =>
      if !unknown.isEmpty then .error (.settings path (.unknownNames unknown))
      else checked path (ofKnown given) := by
  cases value with
  | nothing | mapping =>
    obtain rfl := Option.some.inj found
    rfl
  | _ => contradiction

/-- Entries of a document are given by one. -/
theorem isDocument_of_given (document : value.IsDocument) (found : given? value = some given) :
    (Value.mapping given).IsDocument := by
  cases value with
  | nothing =>
    obtain rfl := Option.some.inj found
    exact .mapping nofun nofun
  | mapping entries =>
    obtain rfl := Option.some.inj found
    exact document
  | _ => contradiction

/-- Settings are loaded exactly where entries of known names give acceptable ones. -/
theorem ofValue_eq_ok {settings : Settings} :
    ofValue path value = .ok settings ↔
      ∃ given, given? value = some given ∧ (∀ entry ∈ given, IsKnown entry.1) ∧
        settings = ofKnown given ∧ settings.Acceptable := by
  constructor
  · intro loaded
    cases found : given? value with
    | none =>
      rw [ofValue_of_none found] at loaded
      contradiction
    | some given =>
      rw [ofValue_of_given found] at loaded
      obtain ⟨unknown, searched, loaded⟩ := bind_eq_ok.mp loaded
      have searched := mapError_eq_ok.mp searched
      cases unknown with
      | cons name names => contradiction
      | nil =>
        have taken : checked path (ofKnown given) = .ok settings := loaded
        obtain ⟨rfl, acceptable⟩ := checked_eq_ok.mp taken
        exact ⟨given, rfl, unknownNames_eq_nil.mp searched, rfl, acceptable⟩
  · rintro ⟨given, found, known, rfl, acceptable⟩
    rw [ofValue_of_given found, unknownNames_eq_nil.mpr known]
    exact checked_eq_ok.mpr ⟨rfl, acceptable⟩

/-- A key that is no text makes loading fail with a fault that nothing answers for. -/
theorem ofValue_of_other (document : (Value.mapping given).IsDocument) {entry : Value × Value}
    (member : entry ∈ given) (other : entry.1.text? = none) :
    ∃ fault, ofValue path (.mapping given) = .error (.escaped fault) ∧ fault.OfType := by
  have scalars : ∀ entry ∈ given, entry.1.IsScalar := by
    cases document with
    | mapping keys _ => exact keys
    | scalar plain => contradiction
  obtain ⟨fault, searched, of_type⟩ := unknownNames_of_other scalars member other
  refine ⟨fault, ?_, of_type⟩
  rw [ofValue_of_given rfl, searched]
  rfl

/-- Where all keys are texts, loading gives settings or refuses the file. -/
theorem ofValue_of_texts (document : value.IsDocument)
    (texts : ∀ given, given? value = some given → ∀ entry ∈ given, ∃ name, entry.1 = .text name) :
    FailsOnly (IsRefusal path) (ofValue path value) := by
  cases found : given? value with
  | none =>
    rw [ofValue_of_none found]
    exact .error ⟨_, rfl, nofun⟩
  | some given =>
    obtain ⟨unknown, searched⟩ := unknownNames_of_texts (texts given found)
    rw [ofValue_of_given found, searched]
    show FailsOnly (IsRefusal path)
      (if !unknown.isEmpty then .error (.settings path (.unknownNames unknown))
      else checked path (ofKnown given))
    refine .ite (.error ⟨_, rfl, nofun⟩) (checked_fails ?_)
    exact isDocument_cacheSize (isDocument_of_given document found)

/-- A value from a file gives a key that is no text, or all its keys are texts. -/
theorem other_or_texts (value : Value) :
    (∃ given, value = .mapping given ∧ ∃ entry ∈ given, entry.1.text? = none) ∨
      ∀ given, given? value = some given → ∀ entry ∈ given, ∃ name, entry.1 = .text name := by
  by_cases other : ∃ given, value = .mapping given ∧ ∃ entry ∈ given, entry.1.text? = none
  · exact .inl other
  · right
    intro given found entry member
    by_contra no_text
    cases value with
    | nothing =>
      obtain rfl := Option.some.inj found
      exact List.not_mem_nil member
    | mapping entries =>
      obtain rfl := Option.some.inj found
      exact other ⟨entries, rfl, entry, member, Value.text?_eq_none.mpr no_text⟩
    | _ => contradiction

end Loading

/-- Settings all of whose values have the types that they should have. -/
structure IsTyped (settings : Settings) : Prop where
  /-- The marker is a text. -/
  marker : ∃ content, settings.marker = .text content
  /-- The beginning of constructing operations is a text. -/
  construction : ∃ content, settings.construction = .text content
  /-- Whether unbalanced parentheses are refused is a boolean. -/
  strict : ∃ truth, settings.strict = .flag truth
  /-- The number of patterns is an integer. -/
  cacheSize : ∃ number, settings.cacheSize = .int number
  /-- The level of messages is a text. -/
  logLevel : ∃ content, settings.logLevel = .text content

/-- A file whose document is malformed is refused, and what another one gives decides. Settings are
loaded from it exactly where entries of known names give acceptable ones, which then have no problems.
Otherwise the file is refused, but for a mapping with a key that is no text: loading fails with a
fault that nothing answers for, of a value of a wrong type. So settings of the right types under keys
that are texts are loaded or refused. -/
theorem load_decided (path : Text) :
    (∀ document problem, Yaml.read document = .error (.malformed problem) →
      load path (some document) = .error (.settings path (.malformed problem))) ∧
    (∀ document value, Yaml.read document = .ok value →
      value.IsDocument ∧ load path (some document) = ofValue path value) ∧
    ∀ value : Value, value.IsDocument →
      (∀ settings, ofValue path value = .ok settings ↔
        ∃ given, given? value = some given ∧ (∀ entry ∈ given, IsKnown entry.1) ∧
          settings = ofKnown given ∧ settings.Acceptable) ∧
      (∀ settings, ofValue path value = .ok settings → settings.problems = .ok []) ∧
      (∀ failure, ofValue path value = .error failure →
        IsRefusal path failure ∨ ∃ fault, failure = .escaped fault ∧ fault.OfType) ∧
      ((∃ fault, ofValue path value = .error (.escaped fault)) ↔
        ∃ given, value = .mapping given ∧ ∃ entry ∈ given, entry.1.text? = none) ∧
      ∀ given, given? value = some given → (∀ entry ∈ given, ∃ name, entry.1 = .text name) →
        (ofKnown given).IsTyped →
        (∃ settings, ofValue path value = .ok settings ∧ settings.IsTyped ∧
          settings.problems = .ok []) ∨
        ∃ failure, ofValue path value = .error failure ∧ IsRefusal path failure := by
  have no_problems : ∀ {value : Value} {settings : Settings},
      ofValue path value = .ok settings → settings.problems = .ok [] := by
    intro value settings loaded
    obtain ⟨given, -, -, -, acceptable⟩ := ofValue_eq_ok.mp loaded
    exact problems_eq_nil.mpr acceptable
  refine ⟨?_, ?_, ?_⟩
  · intro document problem malformed
    rw [load, ofText, malformed]
  · intro document value given
    refine ⟨Yaml.isDocument_of_read given, ?_⟩
    rw [load, ofText, given]
  · intro value document
    refine ⟨fun settings => ofValue_eq_ok, fun settings => no_problems, ?_, ?_, ?_⟩
    · intro failure failed
      rcases other_or_texts value with ⟨given, rfl, entry, member, other⟩ | texts
      · obtain ⟨fault, escaped, of_type⟩ := ofValue_of_other document member other
        rw [escaped] at failed
        exact .inr ⟨fault, (Except.error.inj failed).symm, of_type⟩
      · exact .inl (ofValue_of_texts document texts failure failed)
    · constructor
      · rintro ⟨fault, escaped⟩
        apply (other_or_texts value).resolve_right
        intro texts
        obtain ⟨cause, same, -⟩ := ofValue_of_texts document texts _ escaped
        contradiction
      · rintro ⟨given, rfl, entry, member, other⟩
        obtain ⟨fault, escaped, -⟩ := ofValue_of_other document member other
        exact ⟨fault, escaped⟩
    · intro given found texts typed
      cases outcome : ofValue path value with
      | error failure =>
        have all_texts : ∀ others, given? value = some others →
            ∀ entry ∈ others, ∃ name, entry.1 = .text name := by
          intro others found'
          rw [← Option.some.inj (found.symm.trans found')]
          exact texts
        exact .inr ⟨failure, rfl, ofValue_of_texts document all_texts failure outcome⟩
      | ok settings =>
        obtain ⟨given', found', -, same, -⟩ := ofValue_eq_ok.mp outcome
        obtain rfl := Option.some.inj (found.symm.trans found')
        refine .inl ⟨settings, rfl, ?_, no_problems outcome⟩
        rw [same]
        exact typed

/-- A file with a character that is not permitted is refused, an empty one holds the initial
settings, which are acceptable, and a number as a key fails. -/
theorem load_decided_files :
    load "sockit.yaml" (some "\x07") =
        .error (.settings "sockit.yaml" (.malformed .character)) ∧
      load "sockit.yaml" (some "") = .ok initial ∧ initial.Acceptable ∧
      ∃ fault, ofValue "sockit.yaml" (.mapping [(.int 1, .text "a")]) = .error (.escaped fault) := by
  obtain ⟨malformed, read, decided⟩ := load_decided "sockit.yaml"
  obtain ⟨document, loaded⟩ := read "" .nothing rfl
  have given_initial : ofValue "sockit.yaml" .nothing = .ok initial := rfl
  obtain ⟨given, -, -, -, acceptable⟩ := ((decided .nothing document).1 initial).mp given_initial
  have numbered : (Value.mapping [(.int 1, .text "a")]).IsDocument := by
    apply Value.IsDocument.mapping
    · exact List.forall_mem_singleton.mpr (.int 1)
    · exact List.forall_mem_singleton.mpr (.scalar (.text "a"))
  obtain ⟨-, -, -, escapes, -⟩ := decided _ numbered
  exact ⟨malformed "\x07" .character rfl, loaded.trans given_initial, acceptable,
    escapes.mpr ⟨_, rfl, (.int 1, .text "a"), List.mem_singleton_self _, rfl⟩⟩

/-- A number as a key is not refused, but fails as a value of a wrong type; and a text is accepted
where a boolean should say whether unbalanced parentheses are refused. -/
theorem ofValue_number_key :
    (ofValue "sockit.yaml" (.mapping [(.int 1, .text "a")]) =
        .error (.escaped (.joinItem 0 "int")) ∧
      ¬ IsRefusal "sockit.yaml" (.escaped (.joinItem 0 "int"))) ∧
    ∃ settings,
      ofValue "sockit.yaml" (.mapping [(.text "strict_delimiters", .text "no")]) = .ok settings ∧
        ¬ settings.IsTyped := by
  refine ⟨⟨rfl, ?_⟩, { initial with strict := .text "no" }, rfl, ?_⟩
  · rintro ⟨cause, same, -⟩
    contradiction
  · intro typed
    obtain ⟨truth, same⟩ := typed.strict
    contradiction

end Settings

end Stencil
