import Stencil.Rendering
import Stencil.Proofs.Conversion.Registration
import Stencil.Proofs.Number.Decimal

/-!
# Typed values as text

Integers, booleans and finite decimals fill a template with texts from which they are read again:
an integer with as many digits as may be written, and a decimal with its sign, its coefficient and
its exponent. The text is never empty, and where the absent value is expected as well, the empty
text stands for it and no other text does. So a union with the type of the absent value brings back
both (`convert_stringify_typed`).
-/
namespace Stencil

/-- The values of the types whose values have texts of their own. -/
inductive PlainType.Holds : PlainType → Value → Prop
  /-- An integer with no more digits than may be written. -/
  | int {number : Int} (short : decimalLength number.natAbs ≤ integerDigitLimit) :
    Holds .int (.int number)
  /-- A boolean. -/
  | bool (truth : Bool) : Holds .bool (.flag truth)
  /-- A finite decimal. -/
  | decimal (negative : Bool) {coefficient : Nat} {exponent : Int}
    (range : Decimal.InRange coefficient exponent) :
    Holds .decimal (.decimal (.finite negative coefficient exponent))

/-- A union of a plain type and the type of the absent value, in either order. -/
inductive PlainType.Optional (kind : PlainType) : Expected → Prop
  /-- The absent value comes last. -/
  | last (bars : Bool) : Optional kind (.union bars [.plain kind, .plain .nothing])
  /-- The absent value comes first. -/
  | first (bars : Bool) : Optional kind (.union bars [.plain .nothing, .plain kind])

section RoundTrip

variable {kind : PlainType} {value : Value} {text : Text} {expected : Expected}

/-- The text of an integer that is not too long is read as the integer. -/
theorem exists_text_int {number : Int} (short : decimalLength number.natAbs ≤ integerDigitLimit) :
    ∃ text, text ≠ [] ∧ stringify (.int number) = .ok text ∧ readInt 10 text = .ok number := by
  refine ⟨intText number, ?_, ?_, readInt_intText short⟩
  · rw [intText_eq_signed]
    exact signed_ne_nil _ (natText_ne_nil _)
  · change (writeInt number).mapError _ = _
    rw [writeInt, if_neg (Nat.not_lt.mpr short)]
    rfl

/-- The text of a finite decimal is read as the decimal. -/
theorem exists_text_decimal (negative : Bool) {coefficient : Nat} {exponent : Int}
    (range : Decimal.InRange coefficient exponent) :
    ∃ text, text ≠ [] ∧
      stringify (.decimal (.finite negative coefficient exponent)) = .ok text ∧
      readDecimal text = .ok (.decimal (.finite negative coefficient exponent)) := by
  refine ⟨(Decimal.finite negative coefficient exponent).written, ?_, rfl, ?_⟩
  · obtain ⟨numeral, written, -⟩ := Decimal.exists_numeral negative coefficient exponent
    obtain ⟨first, rest, text, -⟩ := numeral.exists_text_cons
    rw [written, text]
    exact signed_ne_nil _ (List.cons_ne_nil first rest)
  · rw [readDecimal, readDecimal?_written range]

/-- The new table has readers for the types, and they read the texts of their values. -/
theorem PlainType.Holds.exists_reader (held : kind.Holds value) :
    ∃ text reader, text ≠ [] ∧ stringify value = .ok text ∧
      ConversionTable.initial.reader? (.plain kind) = some reader ∧ reader text = .ok value := by
  cases held with
  | int short =>
    obtain ⟨text, filled, written, read⟩ := exists_text_int short
    refine ⟨text, _, filled, written, rfl, ?_⟩
    dsimp only
    rw [read]
    rfl
  | bool truth => cases truth <;> exact ⟨_, readFlag, by decide, rfl, rfl, rfl⟩
  | decimal negative range =>
    obtain ⟨text, filled, written, read⟩ := exists_text_decimal negative range
    exact ⟨text, readDecimal, filled, written, rfl, read⟩

/-- Types with texts of their own are converted to by a reader, alone and in unions. -/
theorem PlainType.Holds.isSingle (held : kind.Holds value) :
    (Expected.plain kind).isSingle = true ∧ (Expected.plain kind).isNothingType = false := by
  cases held <;> exact ⟨rfl, rfl⟩

/-- A value of such a type is read from its text alone, and in a union with the type of the absent
value. -/
theorem PlainType.Holds.exists_text (held : kind.Holds value) :
    ∃ text, text ≠ [] ∧ stringify value = .ok text ∧
      ConversionTable.initial.convert text (.plain kind) = .ok value ∧
      ∀ expected, kind.Optional expected →
        ConversionTable.initial.convert text expected = .ok value := by
  obtain ⟨text, reader, filled, written, found, read⟩ := held.exists_reader
  obtain ⟨single, no_absence⟩ := held.isSingle
  have regular : (Expected.plain kind).Regular := Expected.regular_of_types.1 _ rfl
  have converts := ConversionTable.convertsBy_of_reader? regular single found
  refine ⟨text, filled, written, converts.value text value read, fun expected optional => ?_⟩
  cases optional with
  | last bars =>
    exact converts.memberValue bars [] [.plain .nothing] text value no_absence nofun
      (fun empty => filled empty.1) read
  | first bars =>
    exact converts.memberValue bars [.plain .nothing] [] text value no_absence
      (List.forall_mem_singleton.mpr (.inl rfl)) (fun empty => filled empty.1) read

/-- No reader of the new table reads the absent value. -/
theorem ConversionTable.initial_reads {reader : TextReader}
    (found : initial.reader? (.plain kind) = some reader) : reader text ≠ .ok .nothing := by
  intro read
  cases kind with
  | int | float =>
    obtain rfl := Option.some.inj found
    obtain ⟨number, -, same⟩ := map_eq_ok.mp read
    contradiction
  | bool =>
    obtain rfl := Option.some.inj found
    change readFlag text = _ at read
    unfold readFlag at read
    dsimp only at read
    split at read
    · cases read
    · split at read <;> cases read
  | decimal =>
    obtain rfl := Option.some.inj found
    change readDecimal text = _ at read
    unfold readDecimal at read
    split at read <;> cases read
  | text =>
    obtain rfl := Option.some.inj found
    cases read
  | _ => contradiction

/-- No conversion to a plain type on the new table gives the absent value. -/
theorem ConversionTable.initial_convertSingle :
    initial.convertSingle text (.plain kind) ≠ .ok .nothing := by
  intro found
  have lookup : (Expected.plain kind).lookupFault? = none :=
    (Expected.regular_of_types.1 (.plain kind) rfl).lookup
  unfold convertSingle at found
  rw [lookup] at found
  dsimp only at found
  cases reads : initial.reader? (.plain kind) with
  | some reader =>
    rw [reads] at found
    dsimp only at found
    split at found
    · next read =>
      obtain rfl := Except.ok.inj found
      exact initial_reads reads read
    · next fault failed =>
      rw [readerFailure] at found
      split at found
      · obtain ⟨written, -, refused⟩ := bind_eq_ok.mp found
        cases refused
      · cases found
  | none =>
    rw [reads] at found
    obtain ⟨written, -, refused⟩ := bind_eq_ok.mp found
    cases refused

/-- No conversion to the first of some plain types on the new table gives the absent value. -/
theorem ConversionTable.initial_convertFirst (kinds : List PlainType) :
    initial.convertFirst text (kinds.map .plain) ≠ .ok (some .nothing) := by
  induction kinds with
  | nil => simp [convertFirst]
  | cons kind rest ih =>
    rw [List.map_cons, convertFirst]
    split
    · exact ih
    · split
      · simp
      · split
        · next value found =>
          intro same
          obtain rfl := Option.some.inj (Except.ok.inj same)
          exact initial_convertSingle found
        · exact ih
        · simp

/-- Only the empty text is the absent value in a union of a plain type and its type. -/
theorem PlainType.Optional.eq_nil (optional : kind.Optional expected)
    (found : ConversionTable.initial.convert text expected = .ok .nothing) : text = [] := by
  by_contra filled
  cases optional with
  | last bars =>
    rw [ConversionTable.convert_union_eq_ok fun empty => filled empty.1] at found
    exact ConversionTable.initial_convertFirst [kind, .nothing] found
  | first bars =>
    rw [ConversionTable.convert_union_eq_ok fun empty => filled empty.1] at found
    exact ConversionTable.initial_convertFirst [.nothing, kind] found

/-- Every finite decimal that a text is converted to is a value with a text of its own. -/
theorem holds_of_convert_decimal {negative : Bool} {coefficient : Nat} {exponent : Int}
    (found : ConversionTable.initial.convert text (.plain .decimal) =
      .ok (.decimal (.finite negative coefficient exponent))) :
    PlainType.Holds .decimal (.decimal (.finite negative coefficient exponent)) := by
  have regular : (Expected.plain .decimal).Regular := Expected.regular_of_types.1 _ rfl
  have reader : ConversionTable.initial.reader? (.plain .decimal) = some readDecimal := rfl
  have converts := ConversionTable.convertsBy_of_reader? regular rfl reader
  cases read : readDecimal? none text with
  | some number =>
    have reads : readDecimal text = .ok (.decimal number) := by
      rw [readDecimal, read]
    obtain rfl := Value.decimal.inj (Except.ok.inj ((converts.value text _ reads).symm.trans found))
    exact .decimal negative (inRange_of_readDecimal? read)
  | none =>
    have refuses : readDecimal text = .error (.notDecimal text) := by
      rw [readDecimal, read]
    obtain ⟨written, -, refused⟩ := converts.refusal text _ refuses (.inl rfl)
    cases refused.symm.trans found

end RoundTrip

/-- Integers of no more digits than may be written, booleans and finite decimals survive as text:
each has a text that is not empty and from which it is read again, alone and in a union with the
type of the absent value. There the absent value, whose text is empty, is read from the empty text
and from no other. The decimals with such texts are all finite ones that are ever read. -/
theorem convert_stringify_typed (kind : PlainType) (expected : Expected)
    (optional : kind.Optional expected) :
    (∀ value, kind.Holds value →
      ∃ text, text ≠ [] ∧ stringify value = .ok text ∧
        ConversionTable.initial.convert text (.plain kind) = .ok value ∧
        ConversionTable.initial.convert text expected = .ok value) ∧
      stringify .nothing = .ok [] ∧
      ConversionTable.initial.convert [] expected = .ok .nothing ∧
      (∀ text, ConversionTable.initial.convert text expected = .ok .nothing → text = []) ∧
      ∀ text negative coefficient exponent,
        ConversionTable.initial.convert text (.plain .decimal) =
            .ok (.decimal (.finite negative coefficient exponent)) →
          PlainType.Holds .decimal (.decimal (.finite negative coefficient exponent)) := by
  refine ⟨fun value held => ?_, rfl, ?_, fun text => optional.eq_nil,
    fun text negative coefficient exponent => holds_of_convert_decimal⟩
  · obtain ⟨text, filled, written, alone, among⟩ := held.exists_text
    exact ⟨text, filled, written, alone, among expected optional⟩
  · cases optional <;>
      exact ConversionTable.convert_nil _ _ (List.any_eq_true.mpr ⟨.plain .nothing, by simp, rfl⟩)

/-- A negative decimal with a zero at its end is written with an exponent, and it is read again with
all its digits behind the type of the absent value. -/
theorem convert_stringify_typed_scientific :
    PlainType.Optional .decimal (.union false [.plain .nothing, .plain .decimal]) ∧
      PlainType.Holds .decimal (.decimal (.finite true 120 28)) ∧
      stringify (.decimal (.finite true 120 28)) = .ok "-1.20E+30" ∧
      ConversionTable.initial.convert "-1.20E+30" (.plain .decimal) =
        .ok (.decimal (.finite true 120 28)) ∧
      ConversionTable.initial.convert "-1.20E+30" (.union false [.plain .nothing, .plain .decimal]) =
        .ok (.decimal (.finite true 120 28)) := by
  have optional : PlainType.Optional .decimal (.union false [.plain .nothing, .plain .decimal]) :=
    .first false
  have held : PlainType.Holds .decimal (.decimal (.finite true 120 28)) :=
    .decimal true ⟨by decide, by decide⟩
  have written : stringify (.decimal (.finite true 120 28)) = .ok "-1.20E+30" := by decide +kernel
  obtain ⟨survives, -⟩ := convert_stringify_typed _ _ optional
  obtain ⟨text, -, found, alone, among⟩ := survives _ held
  obtain rfl := Except.ok.inj (found.symm.trans written)
  exact ⟨optional, held, written, alone, among⟩

end Stencil
