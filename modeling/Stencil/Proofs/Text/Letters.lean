import Stencil.Operation.Name

/-!
# Letters and digits

The classes of ASCII letters and digits by code, and the case maps on them: a small letter is the
lower-case form of its capital, and text without capital sigma is put in lower case character by
character.
-/
namespace Stencil

namespace Text

/-- The codes of the capitals. -/
theorem isCapital_iff {char : Char} :
    isCapital char = true ↔ 65 ≤ char.toNat ∧ char.toNat ≤ 90 := by
  rw [isCapital, Bool.and_eq_true, decide_eq_true_eq, decide_eq_true_eq]
  rfl

/-- The codes of the small letters. -/
theorem isSmall_iff {char : Char} :
    isSmall char = true ↔ 97 ≤ char.toNat ∧ char.toNat ≤ 122 := by
  rw [isSmall, Bool.and_eq_true, decide_eq_true_eq, decide_eq_true_eq]
  rfl

/-- The codes of the digits. -/
theorem isDigit_iff {char : Char} :
    char.isDigit = true ↔ 48 ≤ char.toNat ∧ char.toNat ≤ 57 := by
  rw [Char.isDigit, Bool.and_eq_true, decide_eq_true_eq, decide_eq_true_eq, ge_iff_le,
    UInt32.le_iff_toNat_le, UInt32.le_iff_toNat_le]
  rfl

/-- The codes of letters and digits. -/
theorem isAlphanum_iff {char : Char} :
    char.isAlphanum = true ↔
      isCapital char = true ∨ isSmall char = true ∨ char.isDigit = true := by
  have upper : char.isUpper = true ↔ 65 ≤ char.toNat ∧ char.toNat ≤ 90 := by
    unfold Char.isUpper
    rw [decide_eq_true_eq, ge_iff_le, UInt32.le_iff_toNat_le, UInt32.le_iff_toNat_le]
    rfl
  have lower : char.isLower = true ↔ 97 ≤ char.toNat ∧ char.toNat ≤ 122 := by
    unfold Char.isLower
    rw [Bool.and_eq_true, decide_eq_true_eq, decide_eq_true_eq, ge_iff_le,
      UInt32.le_iff_toNat_le, UInt32.le_iff_toNat_le]
    rfl
  unfold Char.isAlphanum Char.isAlpha
  rw [Bool.or_eq_true, Bool.or_eq_true, upper, lower, isCapital_iff, isSmall_iff, or_assoc]

/-- The character of a code below the surrogates has that code. -/
theorem toNat_ofNat {code : Nat} (low : code < 0xD800) : (Char.ofNat code).toNat = code := by
  have valid : code.isValidChar := .inl low
  rw [Char.ofNat, dif_pos valid]
  rfl

/-- A small letter has a capital, whose lower-case form it is. -/
theorem exists_capital {char : Char} (small : isSmall char = true) :
    ∃ capital, upperChar char = [capital] ∧ isCapital capital = true ∧
      lowerChar capital = [char] := by
  have bounds := isSmall_iff.mp small
  have code : (Char.ofNat (char.toNat - 32)).toNat = char.toNat - 32 := toNat_ofNat (by omega)
  have capital : isCapital (Char.ofNat (char.toNat - 32)) = true := by
    rw [isCapital_iff, code]
    omega
  refine ⟨Char.ofNat (char.toNat - 32), ?_, capital, ?_⟩
  · rw [upperChar, if_pos (by omega), if_pos small]
  · have back : char.toNat - 32 + 32 = char.toNat := by omega
    rw [lowerChar, code, if_pos (by omega), if_pos capital, back, Char.ofNat_toNat]

/-- The lower-case form of a capital is a small letter. -/
theorem exists_small {char : Char} (capital : isCapital char = true) :
    ∃ small, lowerChar char = [small] ∧ isSmall small = true := by
  have bounds := isCapital_iff.mp capital
  have code : (Char.ofNat (char.toNat + 32)).toNat = char.toNat + 32 := toNat_ofNat (by omega)
  refine ⟨Char.ofNat (char.toNat + 32), ?_, ?_⟩
  · rw [lowerChar, if_pos (by omega), if_pos capital]
  · rw [isSmall_iff, code]
    omega

/-- An ASCII character that is no capital is its own lower-case form. -/
theorem lowerChar_eq_self {char : Char} (ascii : char.toNat < 128)
    (other : isCapital char = false) : lowerChar char = [char] := by
  rw [lowerChar, if_pos ascii, other, if_neg Bool.false_ne_true]

/-- A small letter is no underscore. -/
theorem ne_underscore {char : Char} (small : isSmall char = true) : char ≠ '_' := by
  rintro rfl
  contradiction

/-- A name that begins with a small letter is public. -/
theorem startsWith_underscore {first : Char} (small : isSmall first = true) (rest : Text) :
    startsWith (first :: rest) "_" = false := by
  change ('_' == first && _) = false
  rw [beq_false_of_ne (Ne.symm (ne_underscore small)), Bool.false_and]

/-- Letters and digits are no capital sigma. -/
theorem ne_sigma {char : Char} (alphanumeric : char.isAlphanum = true) : char.toNat ≠ 0x3A3 := by
  rw [isAlphanum_iff, isCapital_iff, isSmall_iff, isDigit_iff] at alphanumeric
  omega

/-- Without a capital sigma, lower case goes character by character. -/
theorem lower_eq_flatMap {text : Text} (plain : ∀ char ∈ text, char.toNat ≠ 0x3A3) :
    lower text = text.flatMap lowerChar := by
  have after : ∀ passed, lowerAfter passed text = text.flatMap lowerChar := by
    induction text with
    | nil => exact fun passed => rfl
    | cons char rest ih =>
      intro passed
      have other : decide (char.toNat = 0x3A3) = false :=
        decide_eq_false (plain char List.mem_cons_self)
      rw [lowerAfter, other, Bool.false_and, Bool.false_and, if_neg Bool.false_ne_true,
        ih fun char member => plain char (List.mem_cons_of_mem _ member), List.flatMap_cons]
  exact after []

end Text

/-- The codes of the characters that end words. -/
theorem endsWord_iff {char : Char} :
    endsWord char = true ↔ Text.isSmall char = true ∨ char.isDigit = true := by
  rw [endsWord, Bool.or_eq_true]

end Stencil
