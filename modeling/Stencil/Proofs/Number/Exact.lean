import Mathlib.Algebra.Order.Field.Power
import Mathlib.Data.Rat.Cast.Order
import Mathlib.Order.WithBot
import Mathlib.Tactic.FieldSimp
import Mathlib.Tactic.Linarith
import Mathlib.Tactic.Ring
import Stencil.Number.Exact

/-!
# Exact values as rational numbers

A coefficient times a power of ten is a rational number (`Exact.value`). Normal forms are equal
exactly if these numbers are (`Exact.value_inj`), and they are compared as the numbers are
(`Exact.less_iff`), although the digits are looked at only where the places of the first digits are
the same.
-/
namespace Stencil

/-- The factor that a sign stands for. -/
def signFactor (negative : Bool) : ℚ := if negative then -1 else 1

namespace Exact

/-- The rational number that a sign, a coefficient and an exponent of ten stand for. -/
def value (number : Exact) : ℚ :=
  signFactor number.negative * number.coefficient * (10 : ℚ) ^ number.exponent

/-- What a normal form is: zero is positive with exponent zero, and no other coefficient ends in a
zero. -/
inductive IsNormal : Exact → Prop
  /-- Zero. -/
  | zero : IsNormal ⟨false, 0, 0⟩
  /-- A number whose last digit is not zero. -/
  | nonzero {negative : Bool} {coefficient : Nat} {exponent : Int} (last : coefficient % 10 ≠ 0) :
    IsNormal ⟨negative, coefficient, exponent⟩

/-! ### Normal forms -/

section Normal

variable {a b : Exact}

/-- A power of ten is positive. -/
theorem tenPower_pos (exponent : Int) : (0 : ℚ) < (10 : ℚ) ^ exponent :=
  zpow_pos (by norm_num) exponent

/-- The zeros at the end and the digits before them make up the coefficient. -/
theorem stripZeros_mul (coefficient : Nat) :
    (stripZeros coefficient).1 * 10 ^ (stripZeros coefficient).2 = coefficient := by
  induction coefficient using Nat.strong_induction_on with
  | _ coefficient ih =>
    rw [stripZeros]
    split
    · next ends =>
      have shorter := ih (coefficient / 10) (by omega)
      have exact_tenth : coefficient / 10 * 10 = coefficient := by omega
      rw [pow_succ, ← mul_assoc, shorter, exact_tenth]
    · exact mul_one coefficient

/-- The digits before the zeros do not end in a zero. -/
theorem stripZeros_last {coefficient : Nat} (nonzero : coefficient ≠ 0) :
    (stripZeros coefficient).1 % 10 ≠ 0 := by
  induction coefficient using Nat.strong_induction_on with
  | _ coefficient ih =>
    rw [stripZeros]
    split
    · exact ih (coefficient / 10) (by omega) (by omega)
    · next last =>
      exact fun ends => last ⟨nonzero, ends⟩

/-- The normal form stands for the same number. -/
theorem value_normal (negative : Bool) (coefficient : Nat) (exponent : Int) :
    (normal negative coefficient exponent).value =
      signFactor negative * coefficient * (10 : ℚ) ^ exponent := by
  by_cases zero : coefficient = 0
  · rw [normal, if_pos zero, zero, value]
    simp
  · have whole : ((stripZeros coefficient).1 : ℚ) * 10 ^ (stripZeros coefficient).2 =
        coefficient := by
      exact_mod_cast stripZeros_mul coefficient
    rw [normal, if_neg zero]
    show signFactor negative * (stripZeros coefficient).1 *
      (10 : ℚ) ^ (exponent + (stripZeros coefficient).2) = _
    rw [zpow_add₀ (by norm_num), zpow_natCast, ← whole]
    ring

/-- The normal form is one. -/
theorem isNormal_normal (negative : Bool) (coefficient : Nat) (exponent : Int) :
    (normal negative coefficient exponent).IsNormal := by
  by_cases zero : coefficient = 0
  · rw [normal, if_pos zero]
    exact .zero
  · rw [normal, if_neg zero]
    exact .nonzero (stripZeros_last zero)

/-- The absolute value of a number is its coefficient times its power of ten. -/
theorem abs_value (number : Exact) :
    |number.value| = number.coefficient * (10 : ℚ) ^ number.exponent := by
  have positive : (0 : ℚ) ≤ number.coefficient * (10 : ℚ) ^ number.exponent :=
    mul_nonneg (Nat.cast_nonneg _) (tenPower_pos _).le
  rw [value, mul_assoc]
  cases number.negative with
  | false => rw [signFactor, if_neg Bool.false_ne_true, one_mul, abs_of_nonneg positive]
  | true => rw [signFactor, if_pos rfl, neg_one_mul, abs_neg, abs_of_nonneg positive]

/-- A number is zero exactly if its coefficient is. -/
theorem value_eq_zero : a.value = 0 ↔ a.coefficient = 0 := by
  rw [← abs_eq_zero, abs_value, mul_eq_zero, Nat.cast_eq_zero]
  exact or_iff_left (tenPower_pos _).ne'

/-- A number without a minus sign is not negative. -/
theorem value_nonneg (plus : a.negative = false) : 0 ≤ a.value := by
  rw [value, plus, signFactor, if_neg Bool.false_ne_true, one_mul]
  exact mul_nonneg (Nat.cast_nonneg _) (tenPower_pos _).le

/-- A normal form with a minus sign is negative. -/
theorem IsNormal.value_neg (normal : a.IsNormal) (minus : a.negative = true) : a.value < 0 := by
  have nonzero : a.value ≠ 0 := by
    intro zero
    have coefficient := value_eq_zero.mp zero
    cases normal with
    | zero => contradiction
    | nonzero last => exact last (congrArg (· % 10) coefficient)
  have absolute := abs_value a
  have opposite : a.value = -|a.value| := by
    rw [absolute, value, minus, signFactor, if_pos rfl, neg_one_mul, neg_mul]
  rw [opposite]
  exact neg_neg_of_pos (abs_pos.mpr nonzero)

/-- Coefficients that do not end in a zero make the same number only with the same exponent. -/
theorem exponent_le_of_value_eq {first second : Nat} {e e' : Int} (last : first % 10 ≠ 0)
    (same : first * (10 : ℚ) ^ e = second * (10 : ℚ) ^ e') : e' ≤ e := by
  by_contra! less
  obtain ⟨gap, positive, split⟩ : ∃ gap : Nat, 0 < gap ∧ e' = e + gap :=
    ⟨(e' - e).toNat, by omega, by omega⟩
  have scaled : (first : ℚ) = second * 10 ^ gap := by
    rw [split, zpow_add₀ (by norm_num), zpow_natCast] at same
    have cancelled : (first : ℚ) * (10 : ℚ) ^ e = second * 10 ^ gap * (10 : ℚ) ^ e := by
      rw [same]
      ring
    exact mul_right_cancel₀ (tenPower_pos e).ne' cancelled
  have whole : first = second * 10 ^ gap := by exact_mod_cast scaled
  obtain ⟨rest, rfl⟩ := Nat.exists_eq_succ_of_ne_zero positive.ne'
  have ends : first = second * 10 ^ rest * 10 := by rw [whole, pow_succ, mul_assoc]
  exact last (by rw [ends, Nat.mul_mod_left])

/-- A normal form other than zero has a coefficient. -/
theorem coefficient_ne_zero {coefficient : Nat} (last : coefficient % 10 ≠ 0) : coefficient ≠ 0 := by
  rintro rfl
  exact last rfl

/-- Normal forms stand for the same number only if they are the same. -/
theorem IsNormal.value_inj (normal : a.IsNormal) (normal' : b.IsNormal) :
    a.value = b.value ↔ a = b := by
  refine ⟨fun same => ?_, congrArg value⟩
  have absolute : a.coefficient * (10 : ℚ) ^ a.exponent = b.coefficient * (10 : ℚ) ^ b.exponent := by
    rw [← abs_value, ← abs_value, same]
  have signs : a.negative = b.negative := by
    cases minus : a.negative <;> cases minus' : b.negative
    · rfl
    · have below := normal'.value_neg minus'
      have above := value_nonneg minus
      linarith
    · have below := normal.value_neg minus
      have above := value_nonneg minus'
      linarith
    · rfl
  cases normal with
  | zero =>
    cases normal' with
    | zero => rfl
    | nonzero last =>
      have nothing := value_eq_zero.mp (same.symm.trans (value_eq_zero.mpr rfl))
      exact absurd nothing (coefficient_ne_zero last)
  | @nonzero negative coefficient exponent last =>
    cases normal' with
    | zero =>
      have nothing := value_eq_zero.mp (same.trans (value_eq_zero.mpr rfl))
      exact absurd nothing (coefficient_ne_zero last)
    | @nonzero negative' coefficient' exponent' last' =>
      have exponents : exponent = exponent' :=
        le_antisymm (exponent_le_of_value_eq last' absolute.symm)
          (exponent_le_of_value_eq last absolute)
      subst exponents
      have coefficients : coefficient = coefficient' := by
        exact_mod_cast mul_right_cancel₀ (tenPower_pos exponent).ne' absolute
      subst coefficients
      obtain rfl : negative = negative' := signs
      rfl

end Normal

/-! ### Order -/

section Order

variable {a b : Exact}

/-- A coefficient other than zero lies between the powers of ten of its length. -/
theorem decimalLength_bounds {coefficient : Nat} (nonzero : coefficient ≠ 0) :
    10 ^ (decimalLength coefficient - 1) ≤ coefficient ∧
      coefficient < 10 ^ decimalLength coefficient := by
  have positive : 0 < decimalLength coefficient := Nat.length_toDigits_pos
  have upper : coefficient < 10 ^ decimalLength coefficient :=
    (Nat.length_toDigits_le_iff (by decide) positive).mp le_rfl
  refine ⟨?_, upper⟩
  by_contra! less
  by_cases single : decimalLength coefficient = 1
  · rw [single] at less
    omega
  · have shorter : decimalLength coefficient ≤ decimalLength coefficient - 1 :=
      (Nat.length_toDigits_le_iff (by decide) (by omega)).mpr less
    omega

/-- The place of a number's first digit: its absolute value is less than this power of ten, and not
less than the one before. -/
def place (number : Exact) : Int := number.exponent + decimalLength number.coefficient

/-- A number other than zero lies between the powers of ten of its place. -/
theorem place_bounds (nonzero : a.coefficient ≠ 0) :
    (10 : ℚ) ^ (a.place - 1) ≤ |a.value| ∧ |a.value| < (10 : ℚ) ^ a.place := by
  obtain ⟨lower, upper⟩ := decimalLength_bounds nonzero
  have positive : 0 < decimalLength a.coefficient := Nat.length_toDigits_pos
  have below : a.place - 1 = ((decimalLength a.coefficient - 1 : Nat) : Int) + a.exponent := by
    rw [place]
    omega
  have above : a.place = ((decimalLength a.coefficient : Nat) : Int) + a.exponent := by
    rw [place]
    omega
  have lower_value : (10 : ℚ) ^ (decimalLength a.coefficient - 1) ≤ a.coefficient := by
    exact_mod_cast lower
  have upper_value : (a.coefficient : ℚ) < (10 : ℚ) ^ decimalLength a.coefficient := by
    exact_mod_cast upper
  rw [abs_value, below, above, zpow_add₀ (by norm_num), zpow_add₀ (by norm_num), zpow_natCast,
    zpow_natCast]
  exact ⟨mul_le_mul_of_nonneg_right lower_value (tenPower_pos _).le,
    mul_lt_mul_of_pos_right upper_value (tenPower_pos _)⟩

/-- Of two numbers other than zero the one whose first digit stands at a lower place has the smaller
absolute value. -/
theorem abs_value_lt_of_place_lt (nonzero : b.coefficient ≠ 0) (nonzero' : a.coefficient ≠ 0)
    (lower : a.place < b.place) : |a.value| < |b.value| := by
  calc
    |a.value| < (10 : ℚ) ^ a.place := (place_bounds nonzero').2
    _ ≤ (10 : ℚ) ^ (b.place - 1) := zpow_le_zpow_right₀ (by norm_num) (by omega)
    _ ≤ |b.value| := (place_bounds nonzero).1

/-- An absolute value is a whole multiple of each power of ten up to the number's own. -/
theorem abs_value_eq_scaled (number : Exact) {base : Int} (low : base ≤ number.exponent) :
    |number.value| = ((number.coefficient * powerOfTen (number.exponent - base).toNat : Nat) : ℚ) *
      (10 : ℚ) ^ base := by
  obtain ⟨gap, split⟩ : ∃ gap : Nat, number.exponent = base + gap :=
    ⟨(number.exponent - base).toNat, by omega⟩
  have steps : (number.exponent - base).toNat = gap := by omega
  have power : powerOfTen gap = 10 ^ gap := rfl
  rw [abs_value, steps, split, zpow_add₀ (by norm_num), zpow_natCast, power]
  push_cast
  ring

/-- Absolute values are compared as the numbers are. -/
theorem absoluteLess_iff : a.absoluteLess b = true ↔ |a.value| < |b.value| := by
  by_cases right_zero : b.coefficient = 0
  · rw [absoluteLess, if_pos right_zero, value_eq_zero.mpr right_zero, abs_zero]
    exact iff_of_false Bool.false_ne_true (abs_nonneg _).not_gt
  · by_cases left_zero : a.coefficient = 0
    · rw [absoluteLess, if_neg right_zero, if_pos left_zero, value_eq_zero.mpr left_zero, abs_zero]
      exact iff_of_true rfl (abs_pos.mpr fun zero => right_zero (value_eq_zero.mp zero))
    · rw [absoluteLess, if_neg right_zero, if_neg left_zero]
      show (if a.place ≠ b.place then decide (a.place < b.place) else _) = true ↔ _
      by_cases same : a.place = b.place
      · rw [if_neg (not_not.mpr same), decide_eq_true_eq,
          abs_value_eq_scaled a (min_le_left a.exponent b.exponent),
          abs_value_eq_scaled b (min_le_right a.exponent b.exponent),
          mul_lt_mul_iff_left₀ (tenPower_pos _), Nat.cast_lt]
      · rw [if_pos same, decide_eq_true_eq]
        refine ⟨abs_value_lt_of_place_lt right_zero left_zero, fun less => ?_⟩
        by_contra! not_lower
        have higher : b.place < a.place := lt_of_le_of_ne not_lower (Ne.symm same)
        exact less.not_gt (abs_value_lt_of_place_lt left_zero right_zero higher)

/-- Normal forms are compared as the numbers that they stand for. -/
theorem IsNormal.less_iff (normal : a.IsNormal) (normal' : b.IsNormal) :
    a.less b = true ↔ a.value < b.value := by
  cases minus : a.negative <;> cases minus' : b.negative <;> rw [less, minus, minus']
  · show a.absoluteLess b = true ↔ _
    rw [absoluteLess_iff, abs_of_nonneg (value_nonneg minus), abs_of_nonneg (value_nonneg minus')]
  · have below := normal'.value_neg minus'
    have above := value_nonneg minus
    exact iff_of_false Bool.false_ne_true (by linarith)
  · have below := normal.value_neg minus
    have above := value_nonneg minus'
    exact iff_of_true rfl (by linarith)
  · show b.absoluteLess a = true ↔ _
    rw [absoluteLess_iff, abs_of_neg (normal.value_neg minus), abs_of_neg (normal'.value_neg minus'),
      neg_lt_neg_iff]

end Order

/-! ### Integers and binary numbers -/

/-- The normal form of an integer stands for it. -/
theorem value_ofInt (n : Int) : (ofInt n).value = n := by
  rw [ofInt, value_normal, zpow_zero, mul_one]
  by_cases negative : n < 0
  · rw [decide_eq_true negative, signFactor, if_pos rfl, Nat.cast_natAbs, abs_of_neg negative]
    push_cast
    ring
  · rw [decide_eq_false negative, signFactor, if_neg Bool.false_ne_true, Nat.cast_natAbs,
      abs_of_nonneg (not_lt.mp negative), one_mul]

/-- The normal form of a significand times a power of two stands for their product. -/
theorem value_ofBinary (negative : Bool) (significand : Nat) (exponent : Int) :
    (ofBinary negative significand exponent).value =
      signFactor negative * significand * (2 : ℚ) ^ exponent := by
  rw [ofBinary]
  split
  · next whole =>
    obtain ⟨power, rfl⟩ := Int.eq_ofNat_of_zero_le whole
    rw [value_normal, Nat.shiftLeft_eq, zpow_zero, Int.toNat_natCast, zpow_natCast]
    push_cast
    ring
  · next part =>
    obtain ⟨power, rfl⟩ : ∃ power : Nat, exponent = -power := ⟨(-exponent).toNat, by omega⟩
    have five : Nat.pow 5 power = 5 ^ power := rfl
    have half : (5 : ℚ) ^ power * ((10 : ℚ) ^ power)⁻¹ = ((2 : ℚ) ^ power)⁻¹ := by
      rw [show (10 : ℚ) = 5 * 2 by norm_num, mul_pow]
      field_simp
    rw [value_normal, neg_neg, Int.toNat_natCast, zpow_neg, zpow_neg, zpow_natCast, zpow_natCast,
      ← half, five]
    push_cast
    ring

/-- The exact value of an integer is in normal form. -/
theorem isNormal_ofInt (n : Int) : (ofInt n).IsNormal := isNormal_normal _ _ _

/-- The exact value of a significand times a power of two is in normal form. -/
theorem isNormal_ofBinary (negative : Bool) (significand : Nat) (exponent : Int) :
    (ofBinary negative significand exponent).IsNormal := by
  rw [ofBinary]
  split
  · exact isNormal_normal _ _ _
  · exact isNormal_normal _ _ _

end Exact

end Stencil
