import Stencil.Proofs.Binding.Decision
import Stencil.Proofs.Conversion.Registration
import Stencil.Proofs.Value.Faults

/-!
# Obstructed conversions

On the new table a text has a value, or its conversion is refused, or the conversion is obstructed:
what is expected cannot be looked up among the readers or cannot be written, and that fault is passed
on (`convert_refused_or_obstructed`). Types never obstruct a conversion; values in place of types may.
An alternative of a union obstructs the conversion of the texts that pass over all alternatives
before it.
-/
namespace Stencil

/-! ### Faults of what is expected -/

section Faults

namespace Expected

mutual

/-- What is expected is written inside others unless an integer in it has too many digits. -/
theorem inner_fails (expected : Expected) : LimitOnly expected.inner := by
  cases expected with
  | union bars alternatives =>
    unfold inner
    exact .ite ((barTexts_fails alternatives).bind fun _ _ => .ok)
      (.ite ((optionalTexts_fails alternatives).bind fun _ _ => .ok)
        ((unionTexts_fails alternatives).bind fun _ _ => .ok))
  | listOf item =>
    unfold inner
    exact (inner_fails item).bind fun _ _ => .ok
  | constant value =>
    unfold inner
    exact value.written_fails
  | _ => exact .ok

/-- The same holds for alternatives between bars. -/
theorem barTexts_fails (alternatives : List Expected) : LimitOnly (barTexts alternatives) := by
  cases alternatives with
  | nil => exact .ok
  | cons first rest =>
    unfold barTexts
    exact .ite (FailsOnly.ok.bind fun _ _ => (barTexts_fails rest).bind fun _ _ => .ok)
      ((inner_fails first).bind fun _ _ => (barTexts_fails rest).bind fun _ _ => .ok)

/-- The same holds for alternatives beside the absent value. -/
theorem optionalTexts_fails (alternatives : List Expected) :
    LimitOnly (optionalTexts alternatives) := by
  cases alternatives with
  | nil => exact .ok
  | cons first rest =>
    unfold optionalTexts
    exact (inner_fails first).bind fun _ _ => (optionalTexts_fails rest).bind fun _ _ => .ok

/-- The same holds for the alternatives of a union. -/
theorem unionTexts_fails (alternatives : List Expected) : LimitOnly (unionTexts alternatives) := by
  cases alternatives with
  | nil => exact .ok
  | cons first rest =>
    unfold unionTexts
    exact (inner_fails first).bind fun _ _ => (unionTexts_fails rest).bind fun _ _ => .ok

end

end Expected

mutual

/-- What keeps a value from being looked up is a fault of its type. -/
theorem Value.kind_of_lookupFault? {fault : Fault} (value : Value)
    (found : value.lookupFault? = some fault) : fault.kind = "TypeError" := by
  unfold Value.lookupFault? at found
  split at found
  · obtain rfl := Option.some.inj found
    rfl
  · obtain rfl := Option.some.inj found
    rfl
  · next items => exact kind_of_lookupFaultOf? items found
  · obtain rfl := Option.some.inj found
    rfl
  · contradiction

/-- The same holds for items. -/
theorem Value.kind_of_lookupFaultOf? {fault : Fault} (items : List Value)
    (found : Value.lookupFault?.lookupFaultOf? items = some fault) : fault.kind = "TypeError" := by
  cases items with
  | nil => contradiction
  | cons item rest =>
    unfold Value.lookupFault?.lookupFaultOf? at found
    rw [Option.orElse_eq_orElse, Option.orElse_eq_or, Option.or_eq_some_iff] at found
    rcases found with here | ⟨-, behind⟩
    · exact Value.kind_of_lookupFault? item here
    · exact Value.kind_of_lookupFaultOf? rest behind

end

mutual

/-- What keeps an expected type from being looked up is a fault of the type of a value in it. -/
theorem Expected.kind_of_lookupFault? {fault : Fault} (expected : Expected)
    (found : expected.lookupFault? = some fault) : fault.kind = "TypeError" := by
  cases expected with
  | constant value => exact value.kind_of_lookupFault? found
  | listOf item => exact Expected.kind_of_lookupFault? item found
  | union bars alternatives => exact Expected.kind_of_lookupFaultAmong? alternatives found
  | _ => contradiction

/-- The same holds for some expected types. -/
theorem Expected.kind_of_lookupFaultAmong? {fault : Fault} (expected : List Expected)
    (found : lookupFaultAmong? expected = some fault) : fault.kind = "TypeError" := by
  cases expected with
  | nil => contradiction
  | cons first rest =>
    unfold lookupFaultAmong? at found
    rw [Option.orElse_eq_orElse, Option.orElse_eq_or, Option.or_eq_some_iff] at found
    rcases found with here | ⟨-, behind⟩
    · exact Expected.kind_of_lookupFault? first here
    · exact Expected.kind_of_lookupFaultAmong? rest behind

end

namespace Expected

/-- The fault for which an expected type is of no use among readers: it cannot be looked up, or else
it cannot be written. -/
def unusable? (expected : Expected) : Option Fault :=
  match expected.lookupFault? with
  | some fault => some fault
  | none =>
    match expected.written with
    | .ok _ => none
    | .error fault => some fault

variable {expected : Expected} {fault : Fault}

/-- The fault is one of value or of type. -/
theorem kind_of_unusable? (unusable : expected.unusable? = some fault) :
    fault.kind = "ValueError" ∨ fault.kind = "TypeError" := by
  unfold unusable? at unusable
  split at unusable
  · next other found =>
    obtain rfl := Option.some.inj unusable
    exact .inr (kind_of_lookupFault? expected found)
  · split at unusable
    · contradiction
    · next other failed =>
      obtain rfl := Option.some.inj unusable
      have limit : other = .digitLimit none := by
        unfold written at failed
        split at failed <;> first | contradiction | exact inner_fails _ _ failed
      exact .inl (limit ▸ rfl)

/-- Of use is what can be looked up and written. -/
theorem unusable?_eq_none :
    expected.unusable? = none ↔
      expected.lookupFault? = none ∧ ∃ text, expected.written = .ok text := by
  unfold unusable?
  cases expected.lookupFault? with
  | some fault => simp
  | none => cases expected.written <;> simp

/-- What is regular is of use. -/
theorem Regular.unusable?_eq_none (regular : expected.Regular) : expected.unusable? = none :=
  Expected.unusable?_eq_none.mpr ⟨regular.lookup, regular.exists_written⟩

/-- What can be written alone can be written inside others. -/
theorem exists_inner_of_written (written : ∃ text, expected.written = .ok text) :
    ∃ text, expected.inner = .ok text := by
  cases expected with
  | plain | memberOf | instanceOf => exact ⟨_, rfl⟩
  | _ => exact written

/-- What can be written has a name. -/
theorem exists_name_of_written (written : ∃ text, expected.written = .ok text) :
    ∃ label, expected.name = .ok label := by
  rw [name]
  cases expected.shortName? with
  | some label => exact ⟨label, rfl⟩
  | none => exact written

end Expected

end Faults

/-! ### Conversions on the new table -/

/-- A conversion on the new table is obstructed by a fault of what is expected: of a type that is no
union and does not leave the text as it is, or of an alternative of a union behind others that are
passed over. -/
inductive Expected.Obstructs (text : Text) : Expected → Fault → Prop
  /-- What is expected obstructs the conversion itself. -/
  | single {expected : Expected} {fault : Fault} (single : expected.isSingle = true)
    (unusable : expected.unusable? = some fault) : Obstructs text expected fault
  /-- An alternative does. -/
  | member {bars : Bool} {before later : List Expected} {one : Expected} {fault : Fault}
    (filled : ¬ (text = [] ∧ (before ++ one :: later).any Expected.isNothingType = true))
    (passed : ∀ other ∈ before, ConversionTable.initial.PassesOver text other)
    (no_absence : one.isNothingType = false) (reads : one.keepsText = false)
    (unusable : one.unusable? = some fault) :
    Obstructs text (.union bars (before ++ one :: later)) fault

namespace ConversionTable

section Initial

variable {text : Text} {expected : Expected} {reader : TextReader} {fault : Fault}
  {alternatives : List Expected}

/-- The new table has readers for plain types only, and they fail with faults of value. -/
theorem initial_reader? (text : Text) (found : initial.reader? expected = some reader) :
    expected.isType = true ∧ FailsOnly (fun fault : Fault => fault.kind = "ValueError") (reader text) := by
  cases expected with
  | plain kind =>
    refine ⟨rfl, ?_⟩
    cases kind with
    | text =>
      obtain rfl := Option.some.inj found
      exact .ok
    | int =>
      obtain rfl := Option.some.inj found
      refine FailsOnly.map ?_
      unfold readInt
      dsimp only
      split
      · exact .error rfl
      · exact .ite (.error rfl) (.ite .ok (.error rfl))
    | float =>
      obtain rfl := Option.some.inj found
      refine FailsOnly.map ?_
      unfold readDouble
      split
      · exact .ok
      · exact .error rfl
    | bool =>
      obtain rfl := Option.some.inj found
      unfold readFlag
      exact .ite .ok (.ite .ok (.error rfl))
    | decimal =>
      obtain rfl := Option.some.inj found
      change FailsOnly _ (readDecimal text)
      unfold readDecimal
      split
      · exact .ok
      · exact .error rfl
    | _ => contradiction
  | _ => contradiction

/-- What is expected alone and is no use obstructs the conversion. -/
theorem convertSingle_of_unusable (unusable : expected.unusable? = some fault) :
    initial.convertSingle text expected = .error (.escaped fault) := by
  unfold Expected.unusable? at unusable
  unfold convertSingle
  cases lookup : expected.lookupFault? with
  | some other =>
    rw [lookup] at unusable
    obtain rfl := Option.some.inj unusable
    rfl
  | none =>
    rw [lookup] at unusable
    cases form : expected.written with
    | ok written =>
      rw [form] at unusable
      contradiction
    | error other =>
      rw [form] at unusable
      obtain rfl := Option.some.inj unusable
      dsimp only
      split
      · next found =>
        have type := (initial_reader? text found).1
        obtain ⟨written, readable⟩ := (Expected.regular_of_types.1 _ type).exists_written
        rw [form] at readable
        contradiction
      · contradiction
      · rw [writtenType, form]
        rfl

/-- What is of use gives a value, or the conversion is refused. -/
theorem convertSingle_of_usable (text : Text) (usable : expected.unusable? = none) :
    (∃ value, initial.convertSingle text expected = .ok value) ∨
      ∃ cause, initial.convertSingle text expected = .error (.conversion cause) := by
  obtain ⟨lookup, written, form⟩ := Expected.unusable?_eq_none.mp usable
  unfold convertSingle
  rw [lookup]
  dsimp only
  split
  · next reader found =>
    cases read : reader text with
    | ok value => exact .inl ⟨value, rfl⟩
    | error fault =>
      have refuses : fault.isA "ValueError" ∨ fault.isA "TypeError" :=
        .inl (Fault.isA_of_kind ((initial_reader? text found).2 fault read))
      refine .inr ⟨.refused text written fault, ?_⟩
      dsimp only
      rw [readerFailure, if_pos refuses, writtenType, form]
      rfl
  · next enumeration _ =>
    cases enumeration.read text with
    | ok value => exact .inl ⟨value, rfl⟩
    | error fault => exact .inr ⟨_, rfl⟩
  · rw [writtenType, form]
    exact .inr ⟨_, rfl⟩

/-- What is passed over can be written. -/
theorem PassesOver.exists_written (passed : initial.PassesOver text expected) :
    ∃ written, expected.written = .ok written := by
  rcases passed with nothing | ⟨-, cause, refused⟩
  · cases expected with
    | plain kind => exact ⟨_, rfl⟩
    | _ => contradiction
  · cases unusable : expected.unusable? with
    | none => exact (Expected.unusable?_eq_none.mp unusable).2
    | some fault =>
      rw [convertSingle_of_unusable unusable] at refused
      cases refused

variable (text alternatives) in
/-- Either all alternatives are passed over, or one gives a value, or the first that is not passed
over obstructs the conversion. -/
theorem convertFirst_cases :
    ((∀ one ∈ alternatives, initial.PassesOver text one) ∧
        initial.convertFirst text alternatives = .ok none) ∨
      (∃ value, initial.convertFirst text alternatives = .ok (some value)) ∨
      ∃ before one later fault, alternatives = before ++ one :: later ∧
        (∀ other ∈ before, initial.PassesOver text other) ∧ one.isNothingType = false ∧
        one.keepsText = false ∧ one.unusable? = some fault := by
  induction alternatives with
  | nil => exact .inl ⟨fun one member => absurd member List.not_mem_nil, rfl⟩
  | cons first rest ih =>
    have behind (passes : initial.PassesOver text first) :
        initial.convertFirst text (first :: rest) = initial.convertFirst text rest :=
      convertFirst_append (List.forall_mem_singleton.mpr passes) rest
    -- The first alternative is passed over, or the conversion ends with it.
    by_cases passes : initial.PassesOver text first
    · rw [behind passes]
      rcases ih with ⟨passed, ends⟩ | valued | ⟨before, one, later, fault, rfl, passed, obstructs⟩
      · exact .inl ⟨List.forall_mem_cons.mpr ⟨passes, passed⟩, ends⟩
      · exact .inr (.inl valued)
      · exact .inr (.inr ⟨first :: before, one, later, fault, rfl,
          List.forall_mem_cons.mpr ⟨passes, passed⟩, obstructs⟩)
    · obtain ⟨no_absence, not_refused⟩ := not_or.mp passes
      rw [Bool.not_eq_true] at no_absence
      rw [convertFirst, if_neg (Bool.eq_false_iff.mp no_absence)]
      cases reads : first.keepsText with
      | true => exact .inr (.inl ⟨_, if_pos rfl⟩)
      | false =>
        cases unusable : first.unusable? with
        | some fault =>
          have none_before : ∀ other ∈ [], initial.PassesOver text other :=
            fun other member => absurd member List.not_mem_nil
          exact .inr (.inr ⟨[], first, rest, fault, rfl, none_before, no_absence, reads, unusable⟩)
        | none =>
          rcases convertSingle_of_usable text unusable with ⟨value, found⟩ | refused
          · rw [found]
            exact .inr (.inl ⟨value, rfl⟩)
          · exact absurd ⟨reads, refused⟩ not_refused

/-- Alternatives that are all passed over can be written. -/
theorem exists_written_of_passesOver (passed : ∀ one ∈ alternatives, initial.PassesOver text one) :
    ∃ texts, alternatives.mapM Expected.written = .ok texts :=
  exists_mapM_eq_ok fun one member => (passed one member).exists_written

/-- What obstructs a conversion ends it. -/
theorem convert_of_obstructs (obstructs : expected.Obstructs text fault) :
    initial.convert text expected = .error (.escaped fault) := by
  cases obstructs with
  | single single unusable =>
    rw [convert_of_isSingle single]
    exact convertSingle_of_unusable unusable
  | member filled passed no_absence reads unusable =>
    rw [convert_union filled, convertFirst_append passed, convertFirst,
      if_neg (Bool.eq_false_iff.mp no_absence), if_neg (Bool.eq_false_iff.mp reads),
      convertSingle_of_unusable unusable]
    rfl

/-- A union all alternatives of which are passed over refuses the conversion, and has a name. -/
theorem convert_union_of_passesOver (bars : Bool)
    (filled : ¬ (text = [] ∧ alternatives.any Expected.isNothingType = true))
    (passed : ∀ one ∈ alternatives, initial.PassesOver text one)
    (ends : initial.convertFirst text alternatives = .ok none) :
    (∃ cause, initial.convert text (.union bars alternatives) = .error (.conversion cause)) ∧
      ∃ label, (Expected.union bars alternatives).name = .ok label := by
  obtain ⟨texts, written⟩ := exists_written_of_passesOver passed
  have inside : ∀ one ∈ alternatives, ∃ text, one.inner = .ok text :=
    fun one member => Expected.exists_inner_of_written (passed one member).exists_written
  obtain ⟨between, bars_written⟩ := Expected.exists_barTexts inside
  constructor
  · rw [convert_union filled, ends, written]
    exact ⟨_, rfl⟩
  · cases bars with
    | false => exact ⟨_, rfl⟩
    | true =>
      refine Expected.exists_name_of_written ?_
      refine ⟨Text.join " | " between, ?_⟩
      change Expected.inner (.union true alternatives) = _
      rw [Expected.inner, bars_written]
      rfl

variable (text expected) in
/-- On the new table a text has a value, or its conversion is refused for something that has a name,
or it is obstructed. -/
theorem convert_cases :
    (∃ value, initial.convert text expected = .ok value) ∨
      ((∃ cause, initial.convert text expected = .error (.conversion cause)) ∧
        ∃ label, expected.name = .ok label) ∨
      ∃ fault, expected.Obstructs text fault := by
  cases reads : expected.keepsText with
  | true =>
    refine .inl ⟨.text text, ?_⟩
    unfold convert
    exact if_pos reads
  | false =>
    cases single : expected.isSingle with
    | true =>
      cases unusable : expected.unusable? with
      | some fault => exact .inr (.inr ⟨fault, .single single unusable⟩)
      | none =>
        rw [convert_of_isSingle single]
        rcases convertSingle_of_usable text unusable with valued | refused
        · exact .inl valued
        · have written := (Expected.unusable?_eq_none.mp unusable).2
          exact .inr (.inl ⟨refused, Expected.exists_name_of_written written⟩)
    | false =>
      cases expected with
      | union bars alternatives =>
        by_cases absent : text = [] ∧ alternatives.any Expected.isNothingType = true
        · obtain ⟨rfl, absence⟩ := absent
          exact .inl ⟨.nothing, convert_nil _ bars absence⟩
        · rcases convertFirst_cases text alternatives with
            ⟨passed, ends⟩ | ⟨value, found⟩ |
            ⟨before, one, later, fault, rfl, passed, no_absence, one_reads, unusable⟩
          · exact .inr (.inl (convert_union_of_passesOver bars absent passed ends))
          · exact .inl ⟨value, (convert_union_eq_ok absent).mpr found⟩
          · exact .inr (.inr ⟨fault, .member absent passed no_absence one_reads unusable⟩)
      | _ =>
        rw [Expected.isSingle, reads] at single
        · contradiction
        · nofun

end Initial
end ConversionTable

section Obstructed

variable {text : Text} {expected : Expected} {fault : Fault}

/-- The fault of an obstructed conversion is one of value or of type. -/
theorem Expected.Obstructs.kind (obstructs : expected.Obstructs text fault) :
    fault.kind = "ValueError" ∨ fault.kind = "TypeError" := by
  cases obstructs with
  | single _ unusable => exact kind_of_unusable? unusable
  | member _ _ _ _ unusable => exact kind_of_unusable? unusable

/-- No type obstructs a conversion. -/
theorem Expected.Obstructs.isType_eq_false (obstructs : expected.Obstructs text fault) :
    expected.isType = false := by
  cases types : expected.isType with
  | false => rfl
  | true =>
    cases obstructs with
    | single _ unusable =>
      rw [(regular_of_types.1 _ types).unusable?_eq_none] at unusable
      contradiction
    | @member bars before later one _ _ _ _ _ unusable =>
      have each := regular_of_types.2 (before ++ one :: later) types
      have regular := each one (List.mem_append_right before List.mem_cons_self)
      rw [regular.unusable?_eq_none] at unusable
      contradiction

variable {pattern : Pattern} {whole name argument : Text} {target : Value} {asked : Option Text}
  {invoker : Invoker} {state ready left : State} {texts : List Text} {types : List Expected}
  {position : Nat} {type : Expected} {failure : Failure}

/-- A table of readers converts without changing the state. -/
theorem ConversionTable.converter_onlyReads (table : ConversionTable) : table.converter.OnlyReads :=
  fun _ _ _ => rfl

/-- With the conversions of the new table, a binding whose first argument that is not converted is
refused reports that argument; otherwise the argument is obstructed, and its fault is passed on. -/
theorem bind_refused_or_obstructed
    (prepared : Prepared pattern whole target asked invoker state name texts types ready)
    (first : FirstRefusal ConversionTable.initial.converter (texts.zip types) ready position argument
      type failure left) :
    (∃ cause label, failure = .conversion cause ∧
      bind pattern whole target asked invoker ConversionTable.initial.converter state =
        (.error (.argument position argument label cause), ready)) ∨
    ∃ fault, type.Obstructs argument fault ∧
      bind pattern whole target asked invoker ConversionTable.initial.converter state =
        (.error (.escaped fault), ready) := by
  obtain rfl := first.left_eq (ConversionTable.converter_onlyReads _)
  obtain ⟨-, middle, -, ended⟩ := first.refused
  have refused : ConversionTable.initial.convert argument type = .error failure :=
    congrArg Prod.fst ended
  rw [bind_of_firstRefusal prepared first]
  rcases ConversionTable.convert_cases argument type with
    ⟨value, found⟩ | ⟨⟨cause, found⟩, label, labelled⟩ | ⟨fault, obstructs⟩
  · rw [found] at refused
    contradiction
  · obtain rfl := Except.error.inj (found.symm.trans refused)
    exact .inl ⟨cause, label, rfl, by rw [argumentFailure_refused cause labelled]⟩
  · have ends := ConversionTable.convert_of_obstructs obstructs
    obtain rfl := Except.error.inj (ends.symm.trans refused)
    have passed_on : ∀ cause, Failure.escaped fault ≠ .conversion cause := nofun
    exact .inr ⟨fault, obstructs, by rw [argumentFailure_escaped passed_on]⟩

end Obstructed

/-- A union of integers and a list that stands in place of a type. -/
def integerOrList : Expected := .union false [.plain .int, .constant (.list [.int 1])]

end Stencil
