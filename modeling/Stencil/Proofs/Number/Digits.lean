import Stencil.Number.Reader
import Stencil.Proofs.Text.Letters

/-!
# Digits of numbers

Numbers are written with digits, signs, a point and the letter before an exponent. The readers of
numbers leave texts of such characters as they are (`numberText_numeral`), and they find the value
of the digits that a number is written with (`plainValue_natText`). So an integer is read back from
its text if it is not too long (`readInt_intText`).
-/
namespace Stencil

/-! ### Characters of numbers -/

/-- Whether a number can be written with a character. -/
def isNumeral (char : Char) : Bool :=
  char.isDigit || ['-', '+', '.', 'E'].contains char

section Characters

variable {char : Char} {text : Text}

/-- A number is written with digits and with four other characters. -/
theorem isNumeral_iff : isNumeral char = true ↔
    char.isDigit = true ∨ char = '-' ∨ char = '+' ∨ char = '.' ∨ char = 'E' := by
  rw [isNumeral, Bool.or_eq_true, List.contains_iff_mem]
  simp only [List.mem_cons, List.not_mem_nil, or_false]

/-- Digits are among the characters of numbers. -/
theorem numeral_digit (digit : char.isDigit = true) : isNumeral char = true :=
  isNumeral_iff.mpr (.inl digit)

/-- A number with a sign is written with the characters of numbers. -/
theorem numeral_signed (negative : Bool) (numeral : ∀ char ∈ text, isNumeral char = true) :
    ∀ char ∈ signed negative text, isNumeral char = true := by
  cases negative with
  | false => exact numeral
  | true => exact List.forall_mem_cons.mpr ⟨by decide, numeral⟩

/-- A sign leaves a text that is not empty so. -/
theorem signed_ne_nil (negative : Bool) (filled : text ≠ []) : signed negative text ≠ [] := by
  cases negative with
  | false => exact filled
  | true => exact List.cons_ne_nil _ _

/-- An ASCII digit is the plain digit of its value. -/
theorem Text.plainDigit_of_isDigit (digit : char.isDigit = true) : Text.plainDigit char = char := by
  have bounds := Text.isDigit_iff.mp digit
  have value : Text.digitValue? char = some (char.toNat - 48) := by
    rw [Text.digitValue?, if_pos (by omega), if_pos digit]
  have code : 48 + (char.toNat - 48) = char.toNat := by omega
  rw [Text.plainDigit, value]
  dsimp only
  rw [code, Char.ofNat_toNat]

/-- The characters of numbers stay where digits are made plain. -/
theorem plainDigit_numeral (numeral : isNumeral char = true) : Text.plainDigit char = char := by
  rcases isNumeral_iff.mp numeral with digit | rfl | rfl | rfl | rfl
  · exact Text.plainDigit_of_isDigit digit
  all_goals rfl

/-- The codes of the characters of numbers. -/
theorem toNat_numeral (numeral : isNumeral char = true) : 43 ≤ char.toNat ∧ char.toNat ≤ 69 := by
  rcases isNumeral_iff.mp numeral with digit | rfl | rfl | rfl | rfl
  · have bounds := Text.isDigit_iff.mp digit
    omega
  all_goals decide

/-- No blank stands in a number. -/
theorem isBlank_numeral (numeral : isNumeral char = true) : Text.isBlank char = false := by
  have bounds := toNat_numeral numeral
  simp only [Text.isBlank, Text.inRanges, Text.blankRanges, List.any_cons, List.any_nil,
    Bool.or_false, Bool.or_eq_false_iff, Bool.and_eq_false_iff, decide_eq_false_iff_not]
  omega

/-- No blank that the readers of numbers skip stands in a number. -/
theorem isNumberBlank_numeral (numeral : isNumeral char = true) :
    Text.isNumberBlank char = false := by
  have bounds := toNat_numeral numeral
  rw [Text.isNumberBlank, if_pos (by omega), Text.isAsciiBlank, Bool.or_eq_false_iff,
    beq_eq_false_iff_ne, Bool.and_eq_false_iff, decide_eq_false_iff_not, decide_eq_false_iff_not]
  omega

/-- A text without blanks is left as it is where blanks at the ends are taken away. -/
theorem Text.trim_eq_self {blank : Char → Bool} (unblank : ∀ char ∈ text, blank char = false) :
    Text.trim blank text = text := by
  have stays : ∀ text : Text, (∀ char ∈ text, blank char = false) → text.dropWhile blank = text := by
    intro text unblank
    cases text with
    | nil => rfl
    | cons first rest =>
      rw [List.dropWhile_cons, unblank first List.mem_cons_self, if_neg Bool.false_ne_true]
  rw [Text.trim, stays text unblank,
    stays text.reverse fun char member => unblank char (List.mem_reverse.mp member),
    List.reverse_reverse]

/-- The characters of numbers stay where the digits of a text are made plain. -/
theorem map_plainDigit (numeral : ∀ char ∈ text, isNumeral char = true) :
    text.map Text.plainDigit = text :=
  (List.map_congr_left fun char member => plainDigit_numeral (numeral char member)).trans
    (List.map_id' text)

/-- The text of a number is left as it is before it is read. -/
theorem numberText_numeral (numeral : ∀ char ∈ text, isNumeral char = true) :
    numberText text = text := by
  rw [numberText, Text.trim_eq_self fun char member => isNumberBlank_numeral (numeral char member),
    map_plainDigit numeral]

/-- The sign of a number is taken off its digits. -/
theorem splitSign_signed {first : Char} (digit : first.isDigit = true) (negative : Bool)
    (rest : Text) : splitSign (signed negative (first :: rest)) = (negative, first :: rest) := by
  cases negative with
  | true => rfl
  | false =>
    change splitSign (first :: rest) = _
    rw [splitSign]
    all_goals
      rintro rest same
      rw [(List.cons.inj same).1] at digit
      contradiction

end Characters

/-! ### Values of digits -/

section Values

variable {digits : Text} {char : Char}

/-- A number is written with digits. -/
theorem isDigit_natText {n : Nat} (member : char ∈ natText n) : char.isDigit = true :=
  Nat.isDigit_of_mem_toDigits (by decide) (by decide) member

/-- A number is written with some digit. -/
theorem natText_ne_nil (n : Nat) : natText n ≠ [] := Nat.toDigits_ne_nil

/-- Digits have the value that they are read with. -/
theorem plainValue_eq_ofDigitChars (digits : Text) :
    plainValue digits = Nat.ofDigitChars 10 digits 0 := by
  rw [plainValue, digitsValue, List.foldl_map, Nat.ofDigitChars]
  simp only [Nat.mul_comm]
  rfl

/-- The digits that a number is written with have its value. -/
theorem plainValue_natText (n : Nat) : plainValue (natText n) = n := by
  rw [plainValue_eq_ofDigitChars]
  exact Nat.ofDigitChars_ten_toDigits

/-- Zeros in front leave the value of digits. -/
theorem plainValue_zeros (count : Nat) (digits : Text) :
    plainValue (List.replicate count '0' ++ digits) = plainValue digits := by
  induction count with
  | zero => rfl
  | succ count ih => exact ih

/-- Digits are read to their end. -/
theorem takeDigits_digits (plain : ∀ char ∈ digits, char.isDigit = true) (after : Bool)
    (some_digit : digits ≠ [] ∨ after = true) :
    takeDigits 10 after digits = some (digits.map fun char => char.toNat - 48, []) := by
  induction digits generalizing after with
  | nil =>
    obtain rfl := some_digit.resolve_left fun filled => filled rfl
    rfl
  | cons first rest ih =>
    obtain ⟨digit, plain⟩ := List.forall_mem_cons.mp plain
    have bounds := Text.isDigit_iff.mp digit
    have value : baseDigit? 10 first = some (first.toNat - 48) := by
      rw [baseDigit?, alphanumericValue?, if_pos digit]
      exact Option.filter_some_pos (decide_eq_true (by omega))
    rw [takeDigits, value]
    dsimp only
    rw [ih plain true (.inr rfl)]
    rfl

/-- In base ten no mark stands before the digits. -/
theorem dropBaseMark_ten (text : Text) : dropBaseMark 10 text = text := by
  unfold dropBaseMark
  split
  · exact if_neg nofun
  · rfl

/-- An integer is written as a sign and the digits of its absolute value. -/
theorem intText_eq_signed (n : Int) : intText n = signed (decide (n < 0)) (natText n.natAbs) := by
  cases n with
  | ofNat n => rfl
  | negSucc n =>
    rw [decide_eq_true (Int.negSucc_lt_zero n)]
    rfl

/-- An integer is its sign and its absolute value. -/
theorem Double.signedInt_natAbs (n : Int) : Double.signedInt (decide (n < 0)) n.natAbs = n := by
  rw [Double.signedInt]
  split
  · next negative =>
    have := of_decide_eq_true negative
    omega
  · next positive =>
    have := of_decide_eq_false (Bool.eq_false_iff.mpr positive)
    omega

/-- An integer that is not too long is read back from its text. -/
theorem readInt_intText {n : Int} (short : decimalLength n.natAbs ≤ integerDigitLimit) :
    readInt 10 (intText n) = .ok n := by
  obtain ⟨first, rest, written⟩ := List.exists_cons_of_ne_nil (natText_ne_nil n.natAbs)
  have plain : ∀ char ∈ first :: rest, char.isDigit = true :=
    written ▸ fun char => isDigit_natText
  have numeral := numeral_signed (decide (n < 0)) fun char member => numeral_digit (plain char member)
  rw [readInt, intText_eq_signed, written, numberText_numeral numeral,
    splitSign_signed (plain first List.mem_cons_self)]
  dsimp only
  rw [dropBaseMark_ten, takeDigits_digits plain false (.inl (List.cons_ne_nil first rest))]
  dsimp only
  have length : ((first :: rest).map fun char => char.toNat - 48).length = decimalLength n.natAbs := by
    rw [List.length_map, ← written]
    rfl
  have value : digitsValue 10 ((first :: rest).map fun char => char.toNat - 48) = n.natAbs := by
    rw [← written]
    exact plainValue_natText n.natAbs
  rw [length, value, if_neg fun long => absurd short (by omega), Double.signedInt_natAbs]
  rfl

end Values

end Stencil
