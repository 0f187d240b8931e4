import Stencil.Value.Arithmetic
import Stencil.Value.Order
import Stencil.Value.Printer
import Stencil.Proofs.Outcome

/-!
# Faults of computing with values

Values are compared for equality with arithmetic faults only (`same_fails`). They are put in order,
added and divided with these faults and those of operands of wrong types (`ordered_fails`,
`Value.add_fails`, `Value.dividedBy_fails`). They are written unless an integer in them has too many
digits (`Value.written_fails`).
-/
namespace Stencil

/-- Whether a fault is one of arithmetic: a number without value is computed with, or a result lies
outside a range. -/
def Fault.isArithmetic : Fault → Bool
  | floatOverflow | quotientOverflow | decimalInvalid | decimalOverflow => true
  | _ => false

/-- A fault of arithmetic or of operands of wrong types. -/
def Fault.OfOperands (fault : Fault) : Prop := fault.kind = "TypeError" ∨ fault.isArithmetic = true

/-- A computation fails with arithmetic faults only. -/
def ArithmeticOnly {α : Type} (step : Except Fault α) : Prop :=
  FailsOnly (fun fault => fault.isArithmetic = true) step

/-- A computation fails with arithmetic faults and those of operands of wrong types only. -/
def OperandsOnly {α : Type} (step : Except Fault α) : Prop := FailsOnly Fault.OfOperands step

/-- What fails with arithmetic faults only does not fail with others. -/
theorem ArithmeticOnly.operandsOnly {α : Type} {step : Except Fault α} (fails : ArithmeticOnly step) :
    OperandsOnly step :=
  fails.mono fun _ arithmetic => .inr arithmetic

/-! ### Decimals -/

namespace Decimal

variable {context : DecimalContext}

/-- A decimal brought into the range of a context lies inside or is refused. -/
theorem fit_fails (negative : Bool) (coefficient : Nat) (exponent : Int) :
    ArithmeticOnly (fit context negative coefficient exponent) := by
  rw [fit]
  split
  · exact FailsOnly.ok
  · dsimp only
    split
    · exact FailsOnly.error rfl
    · split
      · split
        · exact FailsOnly.ok
        · split <;> split <;> first | exact FailsOnly.ok | exact FailsOnly.error rfl
      · exact FailsOnly.ok

/-- An undefined operand refuses an operation or is its result. -/
theorem undefinedOperand?_fails {left right : Decimal} {result : Except Fault Decimal}
    (found : undefinedOperand? context left right = some result) : ArithmeticOnly result := by
  unfold undefinedOperand? at found
  split at found <;> cases found <;> first | exact FailsOnly.ok | exact FailsOnly.error rfl

/-- Numbers that are not zero are added within a range or refused. -/
theorem addNonzero_fails (negative : Bool) (coefficient : Nat) (exponent : Int)
    (negative' : Bool) (coefficient' : Nat) (exponent' : Int) :
    ArithmeticOnly
      (addNonzero context negative coefficient exponent negative' coefficient' exponent') := by
  unfold addNonzero
  exact FailsOnly.ite (fit_fails _ _ _) (fit_fails _ _ _)

/-- Decimals are added with arithmetic faults only. -/
theorem add_fails (left right : Decimal) : ArithmeticOnly (add context left right) := by
  unfold add
  split
  · next result found => exact undefinedOperand?_fails found
  · split
    · split
      · exact FailsOnly.ok
      · exact FailsOnly.error rfl
    · exact FailsOnly.ok
    · exact FailsOnly.ok
    · split
      · exact fit_fails _ _ _
      · split
        · exact fit_fails _ _ _
        · split
          · exact fit_fails _ _ _
          · exact addNonzero_fails _ _ _ _ _ _
    · exact FailsOnly.error rfl

/-- A decimal is divided with arithmetic faults only. -/
theorem divideBy_fails (dividend : Decimal) (divisor : Nat) :
    ArithmeticOnly (dividend.divideBy context divisor) := by
  unfold divideBy
  split
  · next result found => exact undefinedOperand?_fails found
  · split
    · split
      · exact fit_fails _ _ _
      · exact FailsOnly.ite (fit_fails _ _ _) (fit_fails _ _ _)
    · exact FailsOnly.ok
    · exact FailsOnly.error rfl

end Decimal

/-! ### Sums and quotients -/

/-- Numbers that can be added are so with arithmetic faults only. -/
theorem Number.add?_fails {a b : Number} {sum : Except Fault Value} (found : a.add? b = some sum) :
    ArithmeticOnly sum := by
  have operand : ∀ n, ArithmeticOnly (doubleOperand n) := by
    intro n
    rw [doubleOperand]
    split
    · exact FailsOnly.ok
    · exact FailsOnly.error rfl
  cases a <;> cases b <;> cases found <;>
    first
    | exact FailsOnly.ok
    | exact (operand _).map
    | exact (Decimal.add_fails _ _).map

/-- Operands that do not fit together have wrong types. -/
theorem Value.kind_sumFault (classOf : Nat → Text) (a b : Value) :
    (a.sumFault classOf b).kind = "TypeError" := by
  cases a <;> rfl

/-- Values are added with faults of their operands only. -/
theorem Value.add_fails (classOf : Nat → Text) (a b : Value) : OperandsOnly (a.add classOf b) := by
  have refused : OperandsOnly (.error (a.sumFault classOf b) : Except Fault Value) :=
    FailsOnly.error (.inl (a.kind_sumFault classOf b))
  unfold add
  split
  iterate 4 exact FailsOnly.ok
  split
  · next x y _ _ =>
    cases found : x.add? y with
    | some sum => exact (Number.add?_fails found).operandsOnly
    | none => exact refused
  · exact refused

/-- Items are added up with faults of operands only. -/
theorem Value.sum_fails (classOf : Nat → Text) (items : List Value) :
    OperandsOnly (Value.sum classOf items) :=
  FailsOnly.foldlM (fun total item => total.add_fails classOf item) _ items

/-- A sum is divided by a count with faults of its operands only. -/
theorem Value.dividedBy_fails (classOf : Nat → Text) (count : Nat) (total : Value) :
    OperandsOnly (total.dividedBy classOf count) := by
  unfold dividedBy
  split
  · split
    · exact FailsOnly.ok
    · exact FailsOnly.error (.inr rfl)
  · exact FailsOnly.ok
  · exact ((Decimal.divideBy_fails _ _).operandsOnly).map
  · exact FailsOnly.error (.inl rfl)

/-! ### Equality -/

/-- Numbers are compared for equality with arithmetic faults only. -/
theorem Value.equalNumbers_fails (a b : Value) : ArithmeticOnly (a.equalNumbers b) := by
  unfold equalNumbers
  split
  · split
    · exact FailsOnly.ok
    · unfold Number.equal
      split
      · exact FailsOnly.error rfl
      · split <;> exact FailsOnly.ok
  · exact FailsOnly.ok

/-- One of some items is looked for with the faults of the test only. -/
theorem holdsOfSome_fails {α : Type} {allowed : Fault → Prop} {test : α → Except Fault Bool}
    (fails : ∀ item, FailsOnly allowed (test item)) (items : List α) :
    FailsOnly allowed (holdsOfSome test items) := by
  induction items with
  | nil => exact FailsOnly.ok
  | cons item rest ih =>
    refine (fails item).bind fun holds _ => ?_
    cases holds with
    | true => exact FailsOnly.ok
    | false => exact ih

/-- The first entry whose key passes a test is looked for with the faults of the test only. -/
theorem firstPassing?_fails {α β : Type} {allowed : Fault → Prop} {test : α → Except Fault Bool}
    (fails : ∀ item, FailsOnly allowed (test item)) (entries : List (α × β)) :
    FailsOnly allowed (firstPassing? test entries) := by
  induction entries with
  | nil => exact FailsOnly.ok
  | cons entry rest ih =>
    obtain ⟨key, value⟩ := entry
    refine (fails key).bind fun holds _ => ?_
    cases holds with
    | true => exact FailsOnly.ok
    | false => exact ih

/-- Values, entries and items are compared for equality with arithmetic faults and those of comparing
objects only. -/
theorem comparisons_fail {allowed : Fault → Prop} {test : ObjectTest}
    (arithmetic : ∀ fault : Fault, fault.isArithmetic = true → allowed fault)
    (tests : ∀ a b, FailsOnly allowed (test a b)) :
    (∀ a b, FailsOnly allowed (Value.sameBy test a b)) ∧
      (∀ a b, FailsOnly allowed (entriesWithin test a b)) ∧
      (∀ a b, FailsOnly allowed (allWithin test a b)) ∧
      ∀ a b, FailsOnly allowed (sameItems test a b) := by
  -- The cases are those of the comparison: values of one kind are compared by what they hold, objects
  -- by the test, and all others as numbers.
  apply Value.sameBy.mutual_induct
  case case5 | case7 | case9 | case11 =>
    intro a b length inner
    rw [Value.sameBy, if_pos length]
    exact inner
  case case6 | case8 | case10 | case12 =>
    intro a b length
    rw [Value.sameBy, if_neg length]
    exact FailsOnly.ok
  case case15 =>
    intro reference
    rw [Value.sameBy, if_pos rfl]
    exact FailsOnly.ok
  case case16 =>
    intro a b other
    rw [Value.sameBy, if_neg other]
    exact tests _ _
  case case17 | case18 =>
    intro a b no_object
    rw [Value.sameBy]
    · exact tests _ _
    · exact no_object
  case case21 =>
    intro a b
    intros
    rw [Value.sameBy]
    · exact (Value.equalNumbers_fails a b).mono arithmetic
    all_goals assumption
  case case22 =>
    intro others
    rw [entriesWithin]
    exact FailsOnly.ok
  case case23 =>
    intro key value rest others keys values behind
    rw [entriesWithin]
    refine (firstPassing?_fails keys others).bind fun entry? _ => ?_
    cases entry? with
    | none => exact FailsOnly.ok
    | some value' => exact (values value').bind fun _ _ => FailsOnly.ite behind FailsOnly.ok
  case case24 =>
    intro others
    rw [allWithin]
    exact FailsOnly.ok
  case case25 =>
    intro item rest others same behind
    rw [allWithin]
    exact (holdsOfSome_fails same others).bind fun _ _ => FailsOnly.ite behind FailsOnly.ok
  case case26 =>
    intro a as b bs same behind
    rw [sameItems]
    exact same.bind fun _ _ => FailsOnly.ite behind FailsOnly.ok
  case case27 =>
    intro as bs ended
    rw [sameItems]
    · exact FailsOnly.ok
    · exact ended
  all_goals
    intros
    rw [Value.sameBy]
    exact FailsOnly.ok

/-- Objects that are equal to nothing but themselves are compared without a fault. -/
theorem ObjectTest.apart_fails {allowed : Fault → Prop} (a b : Value) :
    FailsOnly allowed (ObjectTest.apart a b) := FailsOnly.ok

/-- Values are compared for equality with arithmetic faults only. -/
theorem Value.same_fails (a b : Value) : ArithmeticOnly (Value.same a b) :=
  (comparisons_fail (fun _ arithmetic => arithmetic) ObjectTest.apart_fails).1 a b

/-- Sets are compared for inclusion with arithmetic faults only. -/
theorem allWithin_fails (a b : List Value) : ArithmeticOnly (allWithin .apart a b) :=
  (comparisons_fail (fun _ arithmetic => arithmetic) ObjectTest.apart_fails).2.2.1 a b

/-! ### Order -/

/-- Numbers are put in order with arithmetic faults only. -/
theorem Number.ordered_fails (a : Number) (sign : OrderSign) (b : Number) :
    ArithmeticOnly (a.ordered sign b) := by
  unfold Number.ordered
  split
  · exact FailsOnly.ok
  · exact FailsOnly.ite (FailsOnly.error rfl) FailsOnly.ok

/-- Values, and items one by one, are put in order with faults of their operands only. -/
theorem orders_fail (classOf : Nat → Text) (sign : OrderSign) :
    (∀ a b, OperandsOnly (Value.ordered classOf sign a b)) ∧
      ∀ a b, OperandsOnly (orderedItems classOf sign a b) := by
  have properly : ∀ a b, OperandsOnly (properlyWithin a b) := fun a b =>
    FailsOnly.ite (allWithin_fails a b).operandsOnly FailsOnly.ok
  apply Value.ordered.mutual_induct sign
  case case1 | case2 =>
    intros
    rw [Value.ordered]
    exact FailsOnly.ok
  case case3 =>
    intro a b comparable
    rw [Value.ordered, if_pos comparable]
    exact FailsOnly.ok
  case case4 =>
    intro a b comparable
    rw [Value.ordered, if_neg comparable]
    exact FailsOnly.error (.inl rfl)
  case case5 | case6 =>
    intro a b items
    rw [Value.ordered]
    exact items
  case case7 | case8 =>
    rintro a b rfl
    rw [Value.ordered]
    exact properly _ _
  case case9 =>
    intro a b _ _ _ _ _ _ x y second first
    rw [Value.ordered, first, second]
    · exact (Number.ordered_fails x sign y).operandsOnly
    all_goals assumption
  case case10 =>
    intro a b _ _ _ _ _ _ no_numbers
    rw [Value.ordered]
    · split
      · next x y first second => exact absurd second (no_numbers x y first)
      · exact FailsOnly.error (.inl rfl)
    all_goals assumption
  case case11 =>
    intro a as b bs behind here
    rw [orderedItems]
    exact (Value.same_fails a b).operandsOnly.bind fun _ _ => FailsOnly.ite behind here
  case case12 =>
    intro as bs ended
    rw [orderedItems]
    · exact FailsOnly.ok
    · exact ended

/-- The item that comes before or behind all others is found with faults of operands only. -/
theorem extremeFrom_fails (classOf : Nat → Text) (sign : OrderSign) (best : Value)
    (items : List Value) : OperandsOnly (extremeFrom classOf sign best items) := by
  induction items generalizing best with
  | nil => exact FailsOnly.ok
  | cons item rest ih =>
    rw [extremeFrom]
    exact ((orders_fail classOf sign).1 item best).bind fun _ _ =>
      FailsOnly.ite (ih item) (ih best)

/-! ### Writing -/

/-- A computation fails only because an integer has too many digits to be written. -/
abbrev LimitOnly {α : Type} (step : Except Fault α) : Prop :=
  FailsOnly (fun fault => fault = .digitLimit none) step

mutual

/-- A value is written unless an integer in it has too many digits. -/
theorem Value.written_fails (value : Value) : LimitOnly value.written := by
  cases value with
  | int number =>
    unfold Value.written writeInt
    exact .ite (.error rfl) .ok
  | list items =>
    unfold Value.written
    exact (writtenItems_fails items).map
  | tuple items =>
    unfold Value.written
    exact (writtenItems_fails items).map
  | set items =>
    unfold Value.written
    exact (writtenItems_fails items).map
  | mapping entries =>
    unfold Value.written
    exact (writtenEntries_fails entries).map
  | member enumeration identity name value =>
    unfold Value.written
    exact (Value.written_fails value).map
  | _ => exact .ok

/-- The same holds for items. -/
theorem writtenItems_fails (items : List Value) : LimitOnly (writtenItems items) := by
  cases items with
  | nil => exact .ok
  | cons item rest =>
    unfold writtenItems
    exact (Value.written_fails item).bind fun _ _ => (writtenItems_fails rest).bind fun _ _ => .ok

/-- The same holds for entries. -/
theorem writtenEntries_fails (entries : List (Value × Value)) :
    LimitOnly (writtenEntries entries) := by
  cases entries with
  | nil => exact .ok
  | cons entry rest =>
    obtain ⟨key, value⟩ := entry
    unfold writtenEntries
    exact (Value.written_fails key).bind fun _ _ => (Value.written_fails value).bind fun _ _ =>
      (writtenEntries_fails rest).bind fun _ _ => .ok

end

end Stencil
