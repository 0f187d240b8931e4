import Stencil.Conversion
import Stencil.Proofs.Outcome

/-!
# Registered readers

A table of readers is used in steps that register readers and convert texts. After any run of them a
type has the reader that was registered for it last (`Registered.reader?_run`), and what is registered
for other types does not matter (`reader?_run_of_unregistered`). What follows for conversions, alone
and as an alternative of a union, says `convert_registered`.
-/
namespace Stencil

/-! ### Types -/

namespace Expected

mutual

/-- Whether what is expected is a type: no value stands in the place of one, and no name is still to
be looked up. -/
def isType : Expected → Bool
  | .constant _ | .forward _ => false
  | .union _ alternatives => areTypes alternatives
  | .listOf item => isType item
  | _ => true

/-- Whether all of some are types. -/
def areTypes : List Expected → Bool
  | [] => true
  | expected :: rest => isType expected && areTypes rest

end

/-- What is expected can be the key of a table: it is found as itself, can be looked up, and can be
written. -/
structure Regular (expected : Expected) : Prop where
  /-- It is the same as itself. -/
  same_self : same expected expected = true
  /-- It can be looked up. -/
  lookup : expected.lookupFault? = none
  /-- It can be written inside others. -/
  inner : ∃ text, expected.inner = .ok text

section Regular

variable {alternatives : List Expected}

/-- Regular alternatives are among themselves. -/
theorem within_of_subset {others : List Expected} (regular : ∀ one ∈ alternatives, Regular one)
    (among : alternatives ⊆ others) : within alternatives others = true := by
  induction alternatives with
  | nil => rw [within]
  | cons first rest ih =>
    obtain ⟨here, behind⟩ := List.forall_mem_cons.mp regular
    obtain ⟨member, rest_among⟩ := List.cons_subset.mp among
    rw [within, ih behind rest_among, Bool.and_true, List.any_eq_true]
    exact ⟨first, member, here.same_self⟩

/-- A regular alternative is found among those it is one of. -/
theorem containsSame_of_mem {one : Expected} (regular : Regular one) (member : one ∈ alternatives) :
    containsSame alternatives one = true := by
  induction alternatives with
  | nil => exact absurd member List.not_mem_nil
  | cons first rest ih =>
    rw [containsSame, Bool.or_eq_true]
    rcases List.mem_cons.mp member with rfl | behind
    · exact .inl regular.same_self
    · exact .inr (ih behind)

/-- Regular alternatives can be looked up. -/
theorem lookupFaultAmong?_eq_none (regular : ∀ one ∈ alternatives, Regular one) :
    lookupFaultAmong? alternatives = none := by
  induction alternatives with
  | nil => rw [lookupFaultAmong?]
  | cons first rest ih =>
    obtain ⟨here, behind⟩ := List.forall_mem_cons.mp regular
    rw [lookupFaultAmong?, here.lookup, ih behind]
    rfl

/-- Alternatives that can be written inside others can be written between bars. -/
theorem exists_barTexts (inside : ∀ one ∈ alternatives, ∃ text, one.inner = .ok text) :
    ∃ texts, barTexts alternatives = .ok texts := by
  induction alternatives with
  | nil => exact ⟨[], by rw [barTexts]⟩
  | cons first rest ih =>
    obtain ⟨⟨text, written⟩, behind⟩ := List.forall_mem_cons.mp inside
    obtain ⟨texts, others⟩ := ih behind
    rw [barTexts, written, others]
    split <;> exact ⟨_, rfl⟩

/-- They can be written beside the absent value. -/
theorem exists_optionalTexts (inside : ∀ one ∈ alternatives, ∃ text, one.inner = .ok text) :
    ∃ texts, optionalTexts alternatives = .ok texts := by
  induction alternatives with
  | nil => exact ⟨[], by rw [optionalTexts]⟩
  | cons first rest ih =>
    obtain ⟨⟨text, written⟩, behind⟩ := List.forall_mem_cons.mp inside
    obtain ⟨texts, others⟩ := ih behind
    rw [optionalTexts, written, others]
    exact ⟨_, rfl⟩

/-- They can be written as a union. -/
theorem exists_unionTexts (inside : ∀ one ∈ alternatives, ∃ text, one.inner = .ok text) :
    ∃ texts, unionTexts alternatives = .ok texts := by
  induction alternatives with
  | nil => exact ⟨[], by rw [unionTexts]⟩
  | cons first rest ih =>
    obtain ⟨⟨text, written⟩, behind⟩ := List.forall_mem_cons.mp inside
    obtain ⟨texts, others⟩ := ih behind
    rw [unionTexts, written, others]
    exact ⟨_, rfl⟩

/-- A union of regular alternatives is regular. -/
theorem Regular.union {bars : Bool} (regular : ∀ one ∈ alternatives, Regular one) :
    Regular (.union bars alternatives) where
  same_self := by
    rw [same, within_of_subset regular (List.Subset.refl _), Bool.true_and, List.all_eq_true]
    exact fun one member => containsSame_of_mem (regular one member) member
  lookup := by
    rw [lookupFault?]
    exact lookupFaultAmong?_eq_none regular
  inner := by
    have inside : ∀ one ∈ alternatives, ∃ text, one.inner = .ok text :=
      fun one member => (regular one member).inner
    obtain ⟨between, bars_written⟩ := exists_barTexts inside
    obtain ⟨beside, optional_written⟩ := exists_optionalTexts inside
    obtain ⟨listed, union_written⟩ := exists_unionTexts inside
    rw [Expected.inner, bars_written, optional_written, union_written]
    split
    · exact ⟨_, rfl⟩
    · split <;> exact ⟨_, rfl⟩

/-- Types can be the keys of a table. -/
theorem regular_of_types :
    (∀ expected, isType expected = true → Regular expected) ∧
      ∀ expected, areTypes expected = true → ∀ one ∈ expected, Regular one := by
  apply isType.mutual_induct
  case case1 | case2 => nofun
  case case3 =>
    intro bars alternatives ih types
    exact .union (ih types)
  case case4 =>
    intro item ih type
    obtain ⟨same_self, lookup, text, written⟩ := ih type
    refine ⟨?_, ?_, ?_⟩
    · rwa [same]
    · rwa [lookupFault?]
    · rw [Expected.inner, written]
      exact ⟨_, rfl⟩
  case case5 =>
    intro expected no_constant no_name no_union no_list _
    cases expected with
    | constant value => exact absurd rfl (no_constant value)
    | forward source => exact absurd rfl (no_name source)
    | union bars alternatives => exact absurd rfl (no_union bars alternatives)
    | listOf item => exact absurd rfl (no_list item)
    | _ => exact ⟨by simp [same], by rw [lookupFault?] <;> nofun, _, by rw [Expected.inner]⟩
  case case6 =>
    intro _ one member
    exact absurd member List.not_mem_nil
  case case7 =>
    intro first rest here behind types
    rw [areTypes, Bool.and_eq_true] at types
    exact List.forall_mem_cons.mpr ⟨here types.1, behind types.2⟩

/-- A type can be written in a message. -/
theorem Regular.exists_written {expected : Expected} (regular : Regular expected) :
    ∃ text, expected.written = .ok text := by
  unfold written
  split
  · exact ⟨_, rfl⟩
  · exact ⟨_, rfl⟩
  · exact ⟨_, rfl⟩
  · exact regular.inner

end Regular

/-- Whether a type is converted by a reader of its own: text is not left as it is, and the type is
no union. -/
def isSingle : Expected → Bool
  | .union .. => false
  | expected => !expected.keepsText

/-- What text is converted to for an expected type: the alternatives of a union, or the type
alone. -/
def parts : Expected → List Expected
  | .union _ alternatives => alternatives
  | expected => [expected]

end Expected

/-! ### Steps -/

/-- What is done with a table. -/
inductive TableStep
  /-- A reader is registered for a type. -/
  | register (expected : Expected) (reader : TextReader)
  /-- A text is converted. -/
  | convert (text : Text) (expected : Expected)

namespace ConversionTable

/-- The table after a step. A type that cannot be looked up is refused, and converting changes
nothing. -/
def after (table : ConversionTable) : TableStep → ConversionTable
  | .register expected reader => ((table.register expected reader).toOption).getD table
  | .convert _ _ => table

/-- The table after some steps, one after another. -/
def run (table : ConversionTable) (steps : List TableStep) : ConversionTable :=
  steps.foldl after table

end ConversionTable

/-- No step registers a reader for a type. -/
def Unregistered (steps : List TableStep) (expected : Expected) : Prop :=
  ∀ other reader, .register other reader ∈ steps → other.same expected = false

/-- A reader is the one registered last for a type. -/
def RegisteredLast (steps : List TableStep) (expected : Expected) (reader : TextReader) : Prop :=
  ∃ before later, steps = before ++ .register expected reader :: later ∧ Unregistered later expected

section Steps

variable {table : ConversionTable} {steps : List TableStep} {expected : Expected}
  {reader : TextReader}

/-- Before any step no reader is registered. -/
@[simp] theorem unregistered_nil : Unregistered [] expected :=
  fun _ _ member => absurd member List.not_mem_nil

/-- A conversion registers nothing. -/
@[simp] theorem unregistered_convert {text : Text} {wanted : Expected} :
    Unregistered (.convert text wanted :: steps) expected ↔ Unregistered steps expected := by
  simp [Unregistered]

/-- A registration is one for the types that are the same. -/
@[simp] theorem unregistered_register {registered : Expected} :
    Unregistered (.register registered reader :: steps) expected ↔
      registered.same expected = false ∧ Unregistered steps expected := by
  constructor
  · intro unregistered
    exact ⟨unregistered registered reader List.mem_cons_self, fun other reader member =>
      unregistered other reader (List.mem_cons_of_mem _ member)⟩
  · rintro ⟨differs, behind⟩ other reader' member
    rcases List.mem_cons.mp member with same | later
    · obtain ⟨rfl, -⟩ := TableStep.register.inj same
      exact differs
    · exact behind other reader' later

/-- The reader of a type is the first one whose type is the same. -/
theorem reader?_cons (registered : Expected) (readers : List (Expected × TextReader)) :
    (ConversionTable.mk ((registered, reader) :: readers)).reader? expected =
      if registered.same expected = true then some reader
      else (ConversionTable.mk readers).reader? expected := by
  rw [ConversionTable.reader?, List.find?_cons]
  cases registered.same expected <;> rfl

/-- Registrations of other types leave the reader of a type as it is. -/
theorem reader?_run_of_unregistered (unregistered : Unregistered steps expected) :
    (table.run steps).reader? expected = table.reader? expected := by
  induction steps generalizing table with
  | nil => rfl
  | cons step rest ih =>
    change ((table.after step).run rest).reader? expected = _
    cases step with
    | convert text wanted => exact ih (unregistered_convert.mp unregistered)
    | register registered reader =>
      obtain ⟨differs, behind⟩ := unregistered_register.mp unregistered
      rw [ih behind, ConversionTable.after, ConversionTable.register]
      split
      · rfl
      · exact (reader?_cons registered table.readers).trans (if_neg (Bool.eq_false_iff.mp differs))

/-- After any run of steps a type has the reader registered last for it. -/
theorem RegisteredLast.reader?_run (last : RegisteredLast steps expected reader)
    (regular : expected.Regular) : (table.run steps).reader? expected = some reader := by
  obtain ⟨before, later, rfl, unregistered⟩ := last
  rw [ConversionTable.run, List.foldl_append, List.foldl_cons]
  change ((ConversionTable.after _ _).run later).reader? expected = _
  rw [reader?_run_of_unregistered unregistered, ConversionTable.after, ConversionTable.register,
    regular.lookup]
  exact (reader?_cons expected _).trans (if_pos regular.same_self)

end Steps

/-! ### Conversions -/

/-- A fault refuses a conversion if its class is that of faults of value or of type, or lies below
one of them. -/
def Fault.Refuses (fault : Fault) : Prop := fault.isA "ValueError" ∨ fault.isA "TypeError"

/-- An alternative of a union is passed over: it is the type of the absent value, or its conversion
is refused. -/
def ConversionTable.PassesOver (table : ConversionTable) (text : Text) (alternative : Expected) :
    Prop :=
  alternative.isNothingType = true ∨
    alternative.keepsText = false ∧
      ∃ cause, table.convertSingle text alternative = .error (.conversion cause)

section Conversions

variable {table other : ConversionTable} {text : Text} {expected : Expected} {reader : TextReader}
  {alternatives : List Expected}

/-- A type that is converted by a reader of its own leaves no text as it is. -/
theorem Expected.keepsText_of_isSingle (single : expected.isSingle = true) :
    expected.keepsText = false := by
  cases expected with
  | union bars alternatives => rfl
  | _ => exact Bool.not_eq_true' _ |>.mp single

/-- A type is converted alone where it is converted by a reader of its own. -/
theorem ConversionTable.convert_of_isSingle (single : expected.isSingle = true) :
    table.convert text expected = table.convertSingle text expected := by
  unfold convert
  rw [if_neg (Bool.eq_false_iff.mp (Expected.keepsText_of_isSingle single))]
  cases expected with
  | union bars alternatives => contradiction
  | _ => rfl

/-- A reader gives the conversion to its type. -/
theorem ConversionTable.convertSingle_of_reader? (regular : expected.Regular)
    (found : table.reader? expected = some reader) :
    (∀ value, reader text = .ok value → table.convertSingle text expected = .ok value) ∧
      (∀ fault, reader text = .error fault → fault.Refuses →
        ∃ written, expected.written = .ok written ∧
          table.convertSingle text expected = .error (.conversion (.refused text written fault))) ∧
      ∀ fault, reader text = .error fault → ¬ fault.Refuses →
        table.convertSingle text expected = .error (.ofFault fault) := by
  unfold convertSingle
  rw [regular.lookup, found]
  refine ⟨?_, ?_, ?_⟩
  · intro value read
    dsimp only
    rw [read]
  · intro fault failed refuses
    obtain ⟨written, form⟩ := regular.exists_written
    refine ⟨written, form, ?_⟩
    rw [Fault.Refuses] at refuses
    dsimp only
    rw [failed]
    dsimp only
    rw [readerFailure, if_pos refuses, writtenType, form]
    rfl
  · intro fault failed passes
    rw [Fault.Refuses] at passes
    dsimp only
    rw [failed]
    exact if_neg passes

/-- Alternatives that are passed over leave the conversion to those behind. -/
theorem ConversionTable.convertFirst_append {before : List Expected}
    (passed : ∀ one ∈ before, table.PassesOver text one) (later : List Expected) :
    table.convertFirst text (before ++ later) = table.convertFirst text later := by
  induction before with
  | nil => rfl
  | cons first rest ih =>
    obtain ⟨here, behind⟩ := List.forall_mem_cons.mp passed
    rw [List.cons_append, convertFirst]
    rcases here with nothing | ⟨reads, cause, refused⟩
    · rw [if_pos nothing]
      exact ih behind
    · split
      · exact ih behind
      · rw [if_neg (Bool.eq_false_iff.mp reads), refused]
        exact ih behind

/-- Tables with the same reader for a type convert to it alone alike. -/
theorem ConversionTable.convertSingle_congr
    (same_reader : table.reader? expected = other.reader? expected) :
    table.convertSingle text expected = other.convertSingle text expected := by
  unfold convertSingle
  rw [same_reader]

/-- Tables with the same readers for alternatives convert to the first of them alike. -/
theorem ConversionTable.convertFirst_congr
    (same_readers : ∀ one ∈ alternatives, table.reader? one = other.reader? one) :
    table.convertFirst text alternatives = other.convertFirst text alternatives := by
  induction alternatives with
  | nil => rfl
  | cons first rest ih =>
    obtain ⟨here, behind⟩ := List.forall_mem_cons.mp same_readers
    rw [convertFirst, convertFirst, ih behind, convertSingle_congr here]

/-- Tables with the same readers for the parts of what is expected convert to it alike. -/
theorem ConversionTable.convert_congr
    (same_readers : ∀ part ∈ expected.parts, table.reader? part = other.reader? part) :
    table.convert text expected = other.convert text expected := by
  unfold convert
  cases expected with
  | union bars alternatives =>
    have same_first : table.convertFirst text alternatives = other.convertFirst text alternatives :=
      convertFirst_congr same_readers
    dsimp only
    rw [same_first]
  | _ =>
    dsimp only
    rw [convertSingle_congr (same_readers _ List.mem_cons_self)]

variable (table) in
/-- The empty text is the absent value in a union with its type. -/
theorem ConversionTable.convert_nil (bars : Bool)
    (absent : alternatives.any Expected.isNothingType = true) :
    table.convert [] (.union bars alternatives) = .ok .nothing := by
  unfold ConversionTable.convert
  rw [if_neg (by exact Bool.false_ne_true)]
  dsimp only
  rw [absent]
  rfl

/-- Where the empty text does not stand for the absent value, the first alternative of a union decides
that does not refuse the text, and where all of them refuse it the conversion is refused. -/
theorem ConversionTable.convert_union {bars : Bool}
    (filled : ¬ (text = [] ∧ alternatives.any Expected.isNothingType = true)) :
    table.convert text (.union bars alternatives) =
      table.convertFirst text alternatives >>= fun value? =>
        match value? with
        | some value => .ok value
        | none =>
          (alternatives.mapM Expected.written).mapError .escaped >>= fun texts =>
            .error (.conversion (.noAlternative text (writtenTuple texts))) := by
  have no_absence : ¬ (text.isEmpty && alternatives.any Expected.isNothingType) = true := by
    rw [Bool.and_eq_true, List.isEmpty_iff]
    exact filled
  unfold convert
  rw [if_neg (by exact Bool.false_ne_true)]
  exact if_neg no_absence

/-- Where the empty text does not stand for the absent value, a union has the value of the first
alternative that gives one. -/
theorem ConversionTable.convert_union_eq_ok {bars : Bool} {value : Value}
    (filled : ¬ (text = [] ∧ alternatives.any Expected.isNothingType = true)) :
    table.convert text (.union bars alternatives) = .ok value ↔
      table.convertFirst text alternatives = .ok (some value) := by
  rw [convert_union filled, bind_eq_ok]
  constructor
  · rintro ⟨value?, found, given⟩
    cases value? with
    | some other =>
      obtain rfl := Except.ok.inj given
      exact found
    | none =>
      obtain ⟨texts, -, refused⟩ := bind_eq_ok.mp given
      contradiction
  · intro found
    exact ⟨some value, found, rfl⟩

end Conversions

/-! ### The last registration -/

/-- A table converts to a type by a reader, alone and as an alternative of a union. -/
structure ConversionTable.ConvertsBy (table : ConversionTable) (expected : Expected)
    (reader : TextReader) : Prop where
  /-- The value that is read is the result. -/
  value : ∀ text value, reader text = .ok value → table.convert text expected = .ok value
  /-- Where the reader refuses, the conversion is refused. -/
  refusal : ∀ text fault, reader text = .error fault → fault.Refuses →
    ∃ written, expected.written = .ok written ∧
      table.convert text expected = .error (.conversion (.refused text written fault))
  /-- Any other fault of the reader ends the conversion. -/
  passage : ∀ text fault, reader text = .error fault → ¬ fault.Refuses →
    table.convert text expected = .error (.ofFault fault)
  /-- In a union behind alternatives that are passed over, the value that is read is the result. -/
  memberValue : ∀ bars before later text value, expected.isNothingType = false →
    (∀ one ∈ before, table.PassesOver text one) →
    ¬ (text = [] ∧ (before ++ expected :: later).any Expected.isNothingType = true) →
    reader text = .ok value →
    table.convert text (.union bars (before ++ expected :: later)) = .ok value
  /-- In such a union, where the reader refuses, the alternatives behind decide. -/
  memberRefusal : ∀ bars before later text fault, expected.isNothingType = false →
    (∀ one ∈ before, table.PassesOver text one) →
    ¬ (text = [] ∧ (before ++ expected :: later).any Expected.isNothingType = true) →
    reader text = .error fault → fault.Refuses →
    ∀ value, table.convert text (.union bars (before ++ expected :: later)) = .ok value ↔
      table.convertFirst text later = .ok (some value)

/-- A table converts by the reader that it has for a type. -/
theorem ConversionTable.convertsBy_of_reader? {table : ConversionTable} {expected : Expected}
    {reader : TextReader} (regular : expected.Regular) (single : expected.isSingle = true)
    (found : table.reader? expected = some reader) : table.ConvertsBy expected reader := by
  have alone : ∀ text, table.convert text expected = table.convertSingle text expected :=
    fun text => convert_of_isSingle single
  have reads : expected.keepsText = false := Expected.keepsText_of_isSingle single
  refine ⟨fun text value read => ?_, fun text fault failed refuses => ?_,
    fun text fault failed passes => ?_, ?_, ?_⟩
  · rw [alone]
    exact (convertSingle_of_reader? regular found).1 value read
  · rw [alone]
    exact (convertSingle_of_reader? regular found).2.1 fault failed refuses
  · rw [alone]
    exact (convertSingle_of_reader? regular found).2.2 fault failed passes
  · intro bars before later text value no_absence passed filled read
    rw [convert_union_eq_ok filled, convertFirst_append passed, convertFirst,
      if_neg (Bool.eq_false_iff.mp no_absence), if_neg (Bool.eq_false_iff.mp reads),
      (convertSingle_of_reader? regular found).1 value read]
  · intro bars before later text fault no_absence passed filled failed refuses value
    obtain ⟨written, -, refused⟩ :=
      (convertSingle_of_reader? regular found).2.1 fault failed refuses
    rw [convert_union_eq_ok filled, convertFirst_append passed, convertFirst,
      if_neg (Bool.eq_false_iff.mp no_absence), if_neg (Bool.eq_false_iff.mp reads), refused]

/-- After any run of registrations and conversions on a new table, every type that is no union and
does not leave text as it is, is converted by the reader registered for it last, alone and as an
alternative of a union. The empty text stands for the absent value in every union with its type. And
every conversion is as it was on the new table where no reader was registered for what is expected,
or for an alternative of it. -/
theorem convert_registered (steps : List TableStep) :
    (∀ expected reader, expected.isType = true → expected.isSingle = true →
      RegisteredLast steps expected reader →
      (ConversionTable.initial.run steps).ConvertsBy expected reader) ∧
    (∀ bars alternatives, alternatives.any Expected.isNothingType = true →
      (ConversionTable.initial.run steps).convert [] (.union bars alternatives) = .ok .nothing) ∧
    ∀ text expected, (∀ part ∈ expected.parts, Unregistered steps part) →
      (ConversionTable.initial.run steps).convert text expected =
        ConversionTable.initial.convert text expected := by
  refine ⟨fun expected reader type single last => ?_, fun bars alternatives absence => ?_,
    fun text expected unregistered => ?_⟩
  · have regular := Expected.regular_of_types.1 expected type
    exact ConversionTable.convertsBy_of_reader? regular single (last.reader?_run regular)
  · unfold ConversionTable.convert
    exact if_pos absence
  · exact ConversionTable.convert_congr fun part member =>
      reader?_run_of_unregistered (unregistered part member)

/-- Whole numbers in hexadecimal digits. -/
def readHexadecimal : TextReader := fun text => (readInt 16 text).map .int

/-- A list of the text alone. -/
def readSingleton : TextReader := fun text => .ok (.list [.text text])

/-- A run that registers two readers of whole numbers and one of lists. -/
def registrations : List TableStep :=
  [.register (.plain .int) readSingleton, .convert "7" (.plain .int),
    .register (.plain .int) readHexadecimal, .register (.plain .list) readSingleton]

/-- Whole numbers are read by the later of two readers, also behind floating numbers in a union, and
floating numbers as before. -/
theorem convert_registered_hexadecimal :
    RegisteredLast registrations (.plain .int) readHexadecimal ∧
      (ConversionTable.initial.run registrations).convert "ff" (.plain .int) = .ok (.int 255) ∧
      (ConversionTable.initial.run registrations).convert "ff"
          (.union true [.plain .float, .plain .int, .plain .nothing]) = .ok (.int 255) ∧
      (ConversionTable.initial.run registrations).convert "ff" (.plain .float) =
        ConversionTable.initial.convert "ff" (.plain .float) := by
  have last : RegisteredLast registrations (.plain .int) readHexadecimal :=
    ⟨registrations.take 2, registrations.drop 3, rfl, by simp [registrations, Expected.same]⟩
  obtain ⟨latest, -, others⟩ := convert_registered registrations
  have converts := latest _ _ rfl rfl last
  refine ⟨last, converts.value _ _ rfl, ?_, others _ _ ?_⟩
  · refine converts.memberValue true [.plain .float] [.plain .nothing] _ _ rfl ?_ (by decide) rfl
    exact List.forall_mem_singleton.mpr (.inr ⟨rfl, _, rfl⟩)
  · simp [Expected.parts, registrations, Expected.same]

/-- Where objects of any kind are expected, text is left as it is though a reader is registered. -/
theorem convert_registered_object :
    RegisteredLast [.register (.plain .object) fun text => .ok (.text (Text.upper text))]
        (.plain .object) (fun text => .ok (.text (Text.upper text))) ∧
      Text.upper "a" = "A" ∧
      (ConversionTable.initial.run
        [.register (.plain .object) fun text => .ok (.text (Text.upper text))]).convert "a"
          (.plain .object) = .ok (.text "a") :=
  ⟨⟨[], [], rfl, unregistered_nil⟩, by decide, rfl⟩

end Stencil
