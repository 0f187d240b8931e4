import Mathlib.Data.List.TakeDrop
import Stencil.Proofs.Number.Digits

/-!
# Decimals in decimal notation

A finite decimal is written in one of several forms, which all are digits with or without a point
and an exponent (`Decimal.exists_numeral`). The reader of such numerals finds their digits and the
exponent of the last one (`Numeral.readScientific_text`), so that a decimal is read back with its
sign, coefficient and exponent, if its exponent is one that decimals have
(`readDecimal?_written`).
-/
namespace Stencil

/-! ### Numerals -/

/-- A number without sign in decimal notation. -/
structure Numeral where
  /-- The digits before the point. -/
  whole : Text
  /-- The digits behind the point; without any there is no point. -/
  fraction : Text
  /-- The exponent that follows the digits; zero does not. -/
  scale : Int
  /-- There is a digit before the point. -/
  filled : whole ≠ []
  /-- Digits stand before the point. -/
  plain_whole : ∀ char ∈ whole, char.isDigit = true
  /-- Digits stand behind the point. -/
  plain_fraction : ∀ char ∈ fraction, char.isDigit = true

namespace Numeral

/-- The point and the digits behind it. -/
def behindWhole (fraction : Text) : Text := if fraction.isEmpty then [] else '.' :: fraction

/-- The exponent behind the digits. -/
def exponentMark (scale : Int) : Text := if scale = 0 then [] else 'E' :: exponentText 1 scale

/-- The numeral as text. -/
def text (numeral : Numeral) : Text :=
  numeral.whole ++ (behindWhole numeral.fraction ++ exponentMark numeral.scale)

/-- The coefficient and the exponent of ten that the numeral stands for. -/
def scientific (numeral : Numeral) : Scientific :=
  ⟨plainValue (numeral.whole ++ numeral.fraction), numeral.scale - numeral.fraction.length⟩

end Numeral

section Reading

variable {digits rest : Text} {char : Char} {numeral : Numeral}

/-- Digits are taken off a text up to the first other character. -/
theorem spanDigits_append (plain : ∀ char ∈ digits, char.isDigit = true)
    (stops : ∀ char, rest.head? = some char → char.isDigit = false) :
    spanDigits (digits ++ rest) = (digits, rest) := by
  have stop : rest.takeWhile Char.isDigit = [] ∧ rest.dropWhile Char.isDigit = rest := by
    cases rest with
    | nil => exact ⟨rfl, rfl⟩
    | cons first rest =>
      have other := stops first rfl
      rw [List.takeWhile_cons, List.dropWhile_cons, other]
      exact ⟨rfl, rfl⟩
  rw [spanDigits, List.span_eq_takeWhile_dropWhile, List.takeWhile_append_of_pos plain,
    List.dropWhile_append_of_pos plain, stop.1, stop.2, List.append_nil]

/-- An exponent is written as a sign and its digits. -/
theorem exponentText_one (scale : Int) :
    exponentText 1 scale = (if scale < 0 then '-' else '+') :: natText scale.natAbs := by
  have some_digit : 1 - (natText scale.natAbs).length = 0 :=
    Nat.sub_eq_zero_of_le (List.length_pos_iff.mpr (natText_ne_nil _))
  rw [exponentText, some_digit]
  rfl

/-- An exponent is read back from its text. -/
theorem readExponent_exponentText (scale : Int) :
    readExponent (exponentText 1 scale) = some scale := by
  have split : splitSign (exponentText 1 scale) = (decide (scale < 0), natText scale.natAbs) := by
    rw [exponentText_one]
    by_cases negative : scale < 0
    · rw [if_pos negative, decide_eq_true negative, splitSign]
    · rw [if_neg negative, decide_eq_false negative, splitSign]
  have filled : (natText scale.natAbs).isEmpty = false :=
    List.isEmpty_eq_false_iff.mpr (natText_ne_nil _)
  have plain : (natText scale.natAbs).all Char.isDigit = true :=
    List.all_eq_true.mpr fun char => isDigit_natText
  rw [readExponent, split]
  dsimp only
  rw [filled, plain, plainValue_natText, Double.signedInt_natAbs]
  rfl

/-- The digits behind a point at the beginning of a text, and what follows them. -/
def spanFraction (text : Text) : Text × Text :=
  match text with
  | '.' :: rest => spanDigits rest
  | _ => ([], text)

/-- The exponent that a text consists of; no text stands for zero. -/
def wholeExponent? : Text → Option Int
  | [] => some 0
  | letter :: rest => if letter = 'e' || letter = 'E' then readExponent rest else none

/-- A number is read from its digits before the point, those behind it, and its exponent. -/
theorem readScientific_of_spans {text whole fraction tail : Text}
    (first : spanDigits text = (whole, rest)) (second : spanFraction rest = (fraction, tail))
    (filled : whole ≠ []) :
    readScientific text = (wholeExponent? tail).map fun exponent =>
      ⟨plainValue (whole ++ fraction), exponent - fraction.length⟩ := by
  have some_digit : ¬ (whole ++ fraction).isEmpty = true := fun empty =>
    List.append_ne_nil_of_left_ne_nil filled fraction (List.isEmpty_iff.mp empty)
  rw [readScientific, first]
  change (if (whole ++ (spanFraction rest).1).isEmpty then none
    else (wholeExponent? (spanFraction rest).2).map fun exponent =>
      (⟨plainValue (whole ++ (spanFraction rest).1), exponent - (spanFraction rest).1.length⟩ :
        Scientific)) = _
  rw [second, if_neg some_digit]

namespace Numeral

/-- The exponent of a numeral is read back. -/
theorem wholeExponent?_exponentMark (scale : Int) :
    wholeExponent? (exponentMark scale) = some scale := by
  rw [exponentMark]
  by_cases zero : scale = 0
  · rw [if_pos zero, zero, wholeExponent?]
  · rw [if_neg zero]
    exact readExponent_exponentText scale

/-- The exponent of a numeral does not begin with a digit, nor with a point. -/
theorem exponentMark_head (scale : Int) (head : (exponentMark scale).head? = some char) :
    char = 'E' := by
  rw [exponentMark] at head
  split at head
  · contradiction
  · exact (Option.some.inj head).symm

/-- The digits behind the point of a numeral are found. -/
theorem spanFraction_text (numeral : Numeral) :
    spanFraction (behindWhole numeral.fraction ++ exponentMark numeral.scale) =
      (numeral.fraction, exponentMark numeral.scale) := by
  have stops : ∀ char, (exponentMark numeral.scale).head? = some char → char.isDigit = false := by
    intro char head
    rw [exponentMark_head numeral.scale head]
    rfl
  rw [behindWhole]
  cases empty : numeral.fraction with
  | nil =>
    rw [List.isEmpty_nil, if_pos rfl, List.nil_append]
    unfold spanFraction
    split
    · next rest same =>
      have := exponentMark_head numeral.scale (congrArg List.head? same)
      contradiction
    · rfl
  | cons first rest =>
    rw [if_neg nofun, List.cons_append, spanFraction, ← empty]
    exact spanDigits_append numeral.plain_fraction stops

/-- A numeral is read as the coefficient and the exponent that it stands for. -/
theorem readScientific_text (numeral : Numeral) :
    readScientific numeral.text = some numeral.scientific := by
  have stops : ∀ char, (behindWhole numeral.fraction ++ exponentMark numeral.scale).head? =
      some char → char.isDigit = false := by
    intro char head
    rw [behindWhole] at head
    split at head
    · rw [exponentMark_head numeral.scale head]
      rfl
    · obtain rfl := Option.some.inj head
      rfl
  rw [text, readScientific_of_spans (spanDigits_append numeral.plain_whole stops) numeral.spanFraction_text
    numeral.filled, wholeExponent?_exponentMark]
  rfl

/-- A numeral is written with the characters of numbers. -/
theorem isNumeral_text (numeral : Numeral) : ∀ char ∈ numeral.text, isNumeral char = true := by
  intro char member
  rw [text, behindWhole, exponentMark, exponentText_one] at member
  rcases List.mem_append.mp member with whole | behind
  · exact numeral_digit (numeral.plain_whole char whole)
  · rcases List.mem_append.mp behind with fraction | mark
    · split at fraction
      · contradiction
      · rcases List.mem_cons.mp fraction with rfl | digit
        · rfl
        · exact numeral_digit (numeral.plain_fraction char digit)
    · split at mark
      · contradiction
      · rcases List.mem_cons.mp mark with rfl | exponent
        · rfl
        · rcases List.mem_cons.mp exponent with rfl | digit
          · split <;> rfl
          · exact numeral_digit (isDigit_natText digit)

/-- A numeral begins with a digit. -/
theorem exists_text_cons (numeral : Numeral) :
    ∃ first rest, numeral.text = first :: rest ∧ first.isDigit = true := by
  obtain ⟨first, rest, whole⟩ := List.exists_cons_of_ne_nil numeral.filled
  refine ⟨first, rest ++ (behindWhole numeral.fraction ++ exponentMark numeral.scale), ?_, ?_⟩
  · rw [text, whole, List.cons_append]
  · exact numeral.plain_whole first (whole ▸ List.mem_cons_self)

end Numeral
end Reading

/-! ### Written decimals -/

section Writing

variable {digits : Text} {point : Int}

/-- Digits with a point that does not stand behind the last one, and the exponent that moves it
elsewhere, are a numeral of the digits. -/
theorem exists_numeral_of_point (left : Int) (filled : digits ≠ [])
    (plain : ∀ char ∈ digits, char.isDigit = true) (inside : point ≤ digits.length) :
    ∃ numeral : Numeral,
      numeral.text =
        (if point ≤ 0 then "0." ++ List.replicate (-point).toNat '0' ++ digits
          else if (digits.length : Int) ≤ point then
            digits ++ List.replicate (point - digits.length).toNat '0'
          else digits.take point.toNat ++ "." ++ digits.drop point.toNat) ++
          (if left = point then [] else ("E" : Text) ++ exponentText 1 (left - point)) ∧
        numeral.scientific = ⟨plainValue digits, left - digits.length⟩ := by
  have mark : (if left = point then [] else ("E" : Text) ++ exponentText 1 (left - point)) =
      Numeral.exponentMark (left - point) := by
    rw [Numeral.exponentMark]
    by_cases same : left = point
    · rw [if_pos same, if_pos (by omega)]
    · rw [if_neg same, if_neg (by omega)]
      rfl
  rw [mark]
  by_cases before : point ≤ 0
  · -- The point stands before all digits, with zeros between.
    have plain_behind : ∀ char ∈ List.replicate (-point).toNat '0' ++ digits,
        char.isDigit = true := by
      intro char member
      rcases List.mem_append.mp member with zero | digit
      · rw [List.eq_of_mem_replicate zero]
        rfl
      · exact plain char digit
    refine ⟨⟨['0'], List.replicate (-point).toNat '0' ++ digits, left - point, List.cons_ne_nil _ _,
      List.forall_mem_singleton.mpr rfl, plain_behind⟩, ?_, ?_⟩
    · have behind : (List.replicate (-point).toNat '0' ++ digits).isEmpty = false :=
        List.isEmpty_eq_false_iff.mpr (List.append_ne_nil_of_right_ne_nil _ filled)
      rw [if_pos before, Numeral.text, Numeral.behindWhole, behind]
      simp
    · have value : plainValue (['0'] ++ (List.replicate (-point).toNat '0' ++ digits)) =
          plainValue digits := plainValue_zeros ((-point).toNat + 1) digits
      rw [Numeral.scientific]
      simp only [value, List.length_append, List.length_replicate, Scientific.mk.injEq, true_and]
      omega
  · rw [if_neg before]
    by_cases behind : (digits.length : Int) ≤ point
    · -- The point stands behind all digits and is not written.
      have none_added : (point - digits.length).toNat = 0 := by omega
      refine ⟨⟨digits, [], left - point, filled, plain, nofun⟩, ?_, ?_⟩
      · rw [if_pos behind, none_added, Numeral.text, Numeral.behindWhole]
        simp
      · rw [Numeral.scientific, List.append_nil]
        simp only [List.length_nil, Scientific.mk.injEq, true_and]
        omega
    · -- The point stands between digits.
      have some_before : digits.take point.toNat ≠ [] := by
        simp only [ne_eq, List.take_eq_nil_iff, filled, or_false]
        omega
      refine ⟨⟨digits.take point.toNat, digits.drop point.toNat, left - point, some_before,
        fun char member => plain char (List.mem_of_mem_take member),
        fun char member => plain char (List.mem_of_mem_drop member)⟩, ?_, ?_⟩
      · have some_behind : (digits.drop point.toNat).isEmpty = false := by
          rw [List.isEmpty_eq_false_iff, ne_eq, List.drop_eq_nil_iff]
          omega
        rw [if_neg behind, Numeral.text, Numeral.behindWhole, some_behind]
        simp
      · rw [Numeral.scientific, List.take_append_drop]
        simp only [List.length_drop, Scientific.mk.injEq, true_and]
        omega

/-- A finite decimal is written as a sign and a numeral of its coefficient and exponent. -/
theorem Decimal.exists_numeral (negative : Bool) (coefficient : Nat) (exponent : Int) :
    ∃ numeral : Numeral,
      (finite negative coefficient exponent).written = signed negative numeral.text ∧
        numeral.scientific = ⟨coefficient, exponent⟩ := by
  have filled := natText_ne_nil coefficient
  have some_digit : 0 < (natText coefficient).length := List.length_pos_iff.mpr filled
  have inside : (if exponent ≤ 0 && -6 < exponent + (natText coefficient).length then
      exponent + (natText coefficient).length else 1 : Int) ≤ (natText coefficient).length := by
    split
    · next plain =>
      have := of_decide_eq_true (Bool.and_eq_true_iff.mp plain).1
      omega
    · omega
  obtain ⟨numeral, text, scientific⟩ :=
    exists_numeral_of_point (exponent + (natText coefficient).length) filled
      (fun char => isDigit_natText) inside
  refine ⟨numeral, ?_, ?_⟩
  · rw [written, text]
  · rw [scientific, plainValue_natText, Int.add_sub_cancel]

end Writing

/-! ### Decimals read back -/

/-- The exponents that finite decimals have: the first digit and the coefficient stand in the
range. -/
structure Decimal.InRange (coefficient : Nat) (exponent : Int) : Prop where
  /-- The first digit does not stand too high. -/
  highest : exponent + decimalLength coefficient - 1 ≤ decimalHighest
  /-- The last digit does not stand too low. -/
  lowest : decimalLowest ≤ exponent

section RoundTrip

variable {negative : Bool} {coefficient : Nat} {exponent : Int} {identity : Identity}

/-- A number is a finite decimal exactly if its exponent lies in the range. -/
theorem boundedDecimal?_eq_some {number : Scientific} {result : Decimal} :
    boundedDecimal? negative number = some result ↔
      Decimal.InRange number.coefficient number.exponent ∧
        result = .finite negative number.coefficient number.exponent := by
  have first : (if number.coefficient = 0 then number.exponent
      else number.exponent + decimalLength number.coefficient - 1) =
        number.exponent + decimalLength number.coefficient - 1 := by
    split
    · next zero =>
      rw [zero, show decimalLength 0 = 1 from rfl]
      omega
    · rfl
  rw [boundedDecimal?, first]
  constructor
  · intro found
    split at found
    · next range =>
      obtain ⟨highest, lowest⟩ := Bool.and_eq_true_iff.mp range
      exact ⟨⟨of_decide_eq_true highest, of_decide_eq_true lowest⟩, (Option.some.inj found).symm⟩
    · contradiction
  · rintro ⟨⟨highest, lowest⟩, rfl⟩
    exact if_pos (Bool.and_eq_true_iff.mpr ⟨decide_eq_true highest, decide_eq_true lowest⟩)

/-- A signed numeral is read as the decimal that it stands for, if its exponent lies in the
range. -/
theorem readDecimal?_signed (negative : Bool) (numeral : Numeral) :
    readDecimal? identity (signed negative numeral.text) =
      boundedDecimal? negative numeral.scientific := by
  have numerals := numeral_signed negative numeral.isNumeral_text
  have plain : ((Text.strip (signed negative numeral.text)).filter (· != '_')).map Text.plainDigit =
      signed negative numeral.text := by
    have kept : (signed negative numeral.text).filter (· != '_') = signed negative numeral.text := by
      refine List.filter_eq_self.mpr fun char member => bne_iff_ne.mpr ?_
      rintro rfl
      exact absurd (numerals '_' member) nofun
    rw [Text.strip, Text.trim_eq_self fun char member => isBlank_numeral (numerals char member), kept,
      map_plainDigit numerals]
  obtain ⟨first, rest, text, digit⟩ := numeral.exists_text_cons
  have bounds := Text.isDigit_iff.mp digit
  have lower : Text.lowerChar first = [first] := by
    refine Text.lowerChar_eq_self (by omega) ?_
    rw [← Bool.not_eq_true, Text.isCapital_iff]
    omega
  have split : splitSign (signed negative numeral.text) = (negative, numeral.text) := by
    rw [text, splitSign_signed digit]
  have word : numeral.text.flatMap Text.lowerChar = first :: rest.flatMap Text.lowerChar := by
    rw [text, List.flatMap_cons, lower, List.singleton_append]
  have no_letter : ∀ letter others, letter.isDigit = false →
      first :: rest.flatMap Text.lowerChar ≠ letter :: others := by
    intro letter others no_digit same
    rw [(List.cons.inj same).1, no_digit] at digit
    contradiction
  rw [readDecimal?, plain, split]
  dsimp only
  rw [word]
  split
  · next same => exact absurd same (no_letter _ _ rfl)
  · next same => exact absurd same (no_letter _ _ rfl)
  · rw [if_neg, numeral.readScientific_text]
    · rfl
    · intro infinite
      rcases (Bool.or_eq_true _ _).mp infinite with same | same
      · exact no_letter _ _ rfl (of_decide_eq_true same)
      · exact no_letter _ _ rfl (of_decide_eq_true same)

/-- A finite decimal is read back from its text, if its exponent is one that decimals have. -/
theorem readDecimal?_written (range : Decimal.InRange coefficient exponent) :
    readDecimal? identity (Decimal.finite negative coefficient exponent).written =
      some (.finite negative coefficient exponent) := by
  obtain ⟨numeral, written, scientific⟩ := Decimal.exists_numeral negative coefficient exponent
  rw [written, readDecimal?_signed, scientific]
  exact boundedDecimal?_eq_some.mpr ⟨range, rfl⟩

/-- Every finite decimal that is read has an exponent that decimals have. -/
theorem inRange_of_readDecimal? {text : Text}
    (found : readDecimal? identity text = some (.finite negative coefficient exponent)) :
    Decimal.InRange coefficient exponent := by
  rw [readDecimal?] at found
  dsimp only at found
  split at found
  · split at found <;> cases found
  · split at found <;> cases found
  · split at found
    · cases found
    · obtain ⟨number, -, bounded⟩ := Option.bind_eq_some_iff.mp found
      obtain ⟨range, same⟩ := boundedDecimal?_eq_some.mp bounded
      obtain ⟨-, rfl, rfl⟩ := Decimal.finite.inj same
      exact range

end RoundTrip

end Stencil
