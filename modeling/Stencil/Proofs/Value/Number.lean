import Stencil.Value.Order
import Stencil.Proofs.Number.Exact
import Stencil.Proofs.Outcome

/-!
# Numbers of all types by their values

Integers, floating numbers and decimals have values on one extended line (`Number.value?`), and they
are compared by these values whatever their types are: for order (`Number.ordered_of_values`) and
for equality, where an undefined number, which has no value, is only the same as itself
(`Value.equalNumbers_decides`).
-/
namespace Stencil

/-- The rational numbers with an end below and an end above all of them. -/
abbrev ExtendedRat := WithBot (WithTop ℚ)

/-- A rational number on the extended line. -/
def ExtendedRat.ofRat (number : ℚ) : ExtendedRat := ((number : WithTop ℚ) : ExtendedRat)

/-- The end of the extended line on the side of a sign. -/
def ExtendedRat.beyond (negative : Bool) : ExtendedRat := if negative then ⊥ else ⊤

/-- Rational numbers stand in the order of the line. -/
theorem ExtendedRat.ofRat_lt_ofRat {a b : ℚ} : ofRat a < ofRat b ↔ a < b := by
  rw [ofRat, ofRat, WithBot.coe_lt_coe, WithTop.coe_lt_coe]

/-- Every rational number lies above the lower end. -/
theorem ExtendedRat.bot_lt_ofRat (number : ℚ) : (⊥ : ExtendedRat) < .ofRat number :=
  WithBot.bot_lt_coe _

/-- Every rational number lies below the upper end. -/
theorem ExtendedRat.ofRat_lt_top (number : ℚ) : ofRat number < ⊤ :=
  WithBot.coe_lt_coe.mpr (WithTop.coe_lt_top number)

/-- The value of a number; an undefined one has none. -/
def Number.value? : Number → Option ExtendedRat
  | .int number => some (.ofRat number)
  | .double (.finite negative significand exponent) =>
    some (.ofRat (signFactor negative * significand * (2 : ℚ) ^ exponent))
  | .double (.infinite negative) => some (.beyond negative)
  | .double (.undefined _) => none
  | .decimal (.finite negative coefficient exponent) =>
    some (.ofRat (signFactor negative * coefficient * (10 : ℚ) ^ exponent))
  | .decimal (.infinite negative) => some (.beyond negative)
  | .decimal (.undefined ..) => none

/-- Two numbers are alike if they have one value, or are one undefined number. -/
def Number.Alike (a b : Number) : Prop :=
  (∃ value, a.value? = some value ∧ b.value? = some value) ∨ a.same b = true

/-! ### Magnitudes -/

namespace Magnitude

/-- The point of the extended line that a magnitude stands for. -/
def value : Magnitude → ExtendedRat
  | below => ⊥
  | finite number => .ofRat number.value
  | above => ⊤

/-- A magnitude is normal if its number is. -/
inductive IsNormal : Magnitude → Prop
  /-- The lower end. -/
  | below : IsNormal .below
  /-- A normal number. -/
  | finite {number : Exact} (normal : number.IsNormal) : IsNormal (.finite number)
  /-- The upper end. -/
  | above : IsNormal .above

section Comparison

variable {a b : Magnitude}

/-- Normal magnitudes are compared as the points that they stand for. -/
theorem IsNormal.less_iff (normal : a.IsNormal) (normal' : b.IsNormal) :
    a.less b = true ↔ a.value < b.value := by
  cases normal with
  | below =>
    cases normal' with
    | below => exact iff_of_false Bool.false_ne_true (lt_irrefl _)
    | finite => exact iff_of_true rfl (ExtendedRat.bot_lt_ofRat _)
    | above => exact iff_of_true rfl bot_lt_top
  | finite first =>
    cases normal' with
    | below => exact iff_of_false Bool.false_ne_true not_lt_bot
    | finite second => exact (first.less_iff second).trans ExtendedRat.ofRat_lt_ofRat.symm
    | above => exact iff_of_true rfl (ExtendedRat.ofRat_lt_top _)
  | above =>
    have not_less : Magnitude.above.less b = false := by cases b <;> rfl
    rw [not_less]
    exact iff_of_false Bool.false_ne_true not_top_lt

/-- Normal magnitudes stand for the same point only if they are the same. -/
theorem IsNormal.value_inj (normal : a.IsNormal) (normal' : b.IsNormal) :
    a.value = b.value ↔ a = b := by
  refine ⟨fun same => ?_, congrArg value⟩
  cases normal with
  | below =>
    cases normal' with
    | below => rfl
    | finite => exact absurd same (ExtendedRat.bot_lt_ofRat _).ne
    | above => exact absurd same bot_ne_top
  | finite first =>
    cases normal' with
    | below => exact absurd same (ExtendedRat.bot_lt_ofRat _).ne'
    | finite second =>
      have numbers := WithTop.coe_injective (WithBot.coe_injective same)
      rw [(first.value_inj second).mp numbers]
    | above => exact absurd same (ExtendedRat.ofRat_lt_top _).ne
  | above =>
    cases normal' with
    | below => exact absurd same top_ne_bot
    | finite => exact absurd same (ExtendedRat.ofRat_lt_top _).ne'
    | above => rfl

end Comparison

end Magnitude

/-! ### Numbers -/

namespace Number

variable {a b c : Number}

/-- The magnitude beyond all numbers of a sign is the end of the line on that side. -/
theorem value_beyond (negative : Bool) :
    (Magnitude.beyond negative).value = .beyond negative ∧ (Magnitude.beyond negative).IsNormal := by
  cases negative with
  | false => exact ⟨rfl, .above⟩
  | true => exact ⟨rfl, .below⟩

/-- A number has a value if it has a magnitude, which is normal and stands for that value. -/
theorem magnitude?_spec (number : Number) :
    (number.magnitude? = none ∧ number.value? = none) ∨
      ∃ magnitude : Magnitude, number.magnitude? = some magnitude ∧ magnitude.IsNormal ∧
        number.value? = some magnitude.value := by
  rcases number with number | number | number
  · refine .inr ⟨.finite (.ofInt number), rfl, .finite (Exact.isNormal_ofInt number), ?_⟩
    rw [value?, Magnitude.value, Exact.value_ofInt]
  · rcases number with ⟨negative, significand, exponent⟩ | negative | identity
    · refine .inr ⟨_, rfl, .finite (Exact.isNormal_ofBinary negative significand exponent), ?_⟩
      rw [value?, Magnitude.value, Exact.value_ofBinary]
    · exact .inr ⟨_, rfl, (value_beyond negative).2, congrArg some (value_beyond negative).1.symm⟩
    · exact .inl ⟨rfl, rfl⟩
  · rcases number with ⟨negative, coefficient, exponent⟩ | negative | _
    · refine .inr ⟨_, rfl, .finite (Exact.isNormal_normal negative coefficient exponent), ?_⟩
      rw [value?, Magnitude.value, Exact.value_normal]
    · exact .inr ⟨_, rfl, (value_beyond negative).2, congrArg some (value_beyond negative).1.symm⟩
    · exact .inl ⟨rfl, rfl⟩

/-- The comparison of numbers decides whether they have one value. -/
theorem equal_decides (a b : Number) :
    Decides (a.equal b) (∃ value, a.value? = some value ∧ b.value? = some value) := by
  rw [equal]
  split
  · exact .error
  · rcases magnitude?_spec a with ⟨no_magnitude, no_value⟩ | ⟨first, magnitude, normal, value⟩
    · rw [no_magnitude]
      refine .ok (iff_of_false Bool.false_ne_true ?_)
      rintro ⟨value, has_value, -⟩
      exact absurd (no_value.symm.trans has_value) nofun
    · rcases magnitude?_spec b with ⟨no_magnitude, no_value⟩ | ⟨second, magnitude', normal', value'⟩
      · rw [magnitude, no_magnitude]
        refine .ok (iff_of_false Bool.false_ne_true ?_)
        rintro ⟨value, -, has_value⟩
        exact absurd (no_value.symm.trans has_value) nofun
      · rw [magnitude, magnitude', value, value']
        refine .ok ?_
        rw [beq_iff_eq, ← normal.value_inj normal']
        simp [eq_comm]

/-- Undefined numbers that are one object have no value. -/
theorem value?_of_same (same : a.same b = true) : a.value? = none ∧ b.value? = none := by
  unfold Number.same at same
  split at same
  · exact ⟨rfl, rfl⟩
  · exact ⟨rfl, rfl⟩
  · contradiction

/-- Being one object is symmetric. -/
theorem same_symm (same : a.same b = true) : b.same a = true := by
  unfold Number.same at same
  split at same
  · exact beq_iff_eq.mpr (beq_iff_eq.mp same).symm
  · exact beq_iff_eq.mpr (beq_iff_eq.mp same).symm
  · contradiction

/-- What is one object with a second, which is one with a third, is one with the third. -/
theorem same_trans (same : a.same b = true) (same' : b.same c = true) : a.same c = true := by
  unfold Number.same at same
  split at same
  · obtain rfl := beq_iff_eq.mp same
    exact same'
  · obtain rfl := beq_iff_eq.mp same
    unfold Number.same at same' ⊢
    split at same' <;> simp_all
  · contradiction

/-- Being alike is symmetric. -/
theorem Alike.symm (alike : a.Alike b) : b.Alike a := by
  rcases alike with ⟨value, first, second⟩ | same
  · exact .inl ⟨value, second, first⟩
  · exact .inr (same_symm same)

/-- Being alike is transitive: an undefined number is alike no number that has a value. -/
theorem Alike.trans (alike : a.Alike b) (alike' : b.Alike c) : a.Alike c := by
  rcases alike with ⟨value, first, second⟩ | same
  · rcases alike' with ⟨value', second', third⟩ | same'
    · obtain rfl := Option.some.inj (second.symm.trans second')
      exact .inl ⟨value, first, third⟩
    · exact absurd (second.symm.trans (value?_of_same same').1) nofun
  · rcases alike' with ⟨value', second', -⟩ | same'
    · exact absurd ((value?_of_same same).2.symm.trans second') nofun
    · exact .inr (same_trans same same')

end Number

/-- The comparison of values as numbers decides whether both are numbers, and these are alike. -/
theorem Value.equalNumbers_decides (a b : Value) :
    Decides (a.equalNumbers b) (∃ x y, a.number? = some x ∧ b.number? = some y ∧ x.Alike y) := by
  unfold equalNumbers
  split
  · next x y first second =>
    have only_these : x.Alike y ↔
        ∃ x' y', a.number? = some x' ∧ b.number? = some y' ∧ x'.Alike y' := by
      rw [first, second]
      simp
    refine Decides.congr ?_ only_these
    by_cases same : x.same y = true
    · rw [if_pos same]
      exact .ok (iff_of_true rfl (.inr same))
    · rw [if_neg same]
      exact (Number.equal_decides x y).congr (or_iff_left same).symm
  · next not_both =>
    refine .ok (iff_of_false Bool.false_ne_true ?_)
    rintro ⟨x, y, first, second, -⟩
    exact not_both x y first second

/-! ### Order -/

/-- Whether two points stand in the order of a sign. -/
def OrderSign.Holds {α : Type} [LT α] (sign : OrderSign) (a b : α) : Prop :=
  match sign with
  | less => a < b
  | greater => b < a

/-- Numbers that have values are put in order without a fault, and as their values are. -/
theorem Number.ordered_of_values {a b : Number} {value value' : ExtendedRat} (sign : OrderSign)
    (first : a.value? = some value) (second : b.value? = some value') :
    ∃ truth, a.ordered sign b = .ok truth ∧ (truth = true ↔ sign.Holds value value') := by
  rcases magnitude?_spec a with ⟨-, no_value⟩ | ⟨low, magnitude, normal, stands⟩
  · exact absurd (first.symm.trans no_value) nofun
  · rcases magnitude?_spec b with ⟨-, no_value⟩ | ⟨high, magnitude', normal', stands'⟩
    · exact absurd (second.symm.trans no_value) nofun
    · obtain rfl := Option.some.inj (first.symm.trans stands)
      obtain rfl := Option.some.inj (second.symm.trans stands')
      refine ⟨sign.decideBy Magnitude.less low high, ?_, ?_⟩
      · rw [Number.ordered, magnitude, magnitude']
      · cases sign with
        | less => exact normal.less_iff normal'
        | greater => exact normal'.less_iff normal

end Stencil
