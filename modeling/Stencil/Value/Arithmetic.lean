import Stencil.Value.Equality

/-!
# Sums and averages

The sum of two values: numbers are added, sequences joined. Integers stay exact, a floating number
makes its partner one, decimals are added to integers only.
-/
namespace Stencil

/-- The floating number of an integer operand. -/
def doubleOperand (n : Int) : Except Fault Double :=
  match Double.ofInt? n with
  | some number => .ok number
  | none => .error .floatOverflow

/-- The decimal of an integer. -/
def Decimal.ofInt (n : Int) : Decimal := .finite (n < 0) n.natAbs 0

/-- The sum of two numbers, if their types can be added. -/
def Number.add? : Number → Number → Option (Except Fault Value)
  | int a, int b => some (.ok (.int (a + b)))
  | int a, double b => some ((doubleOperand a).map fun a => .double (a.add b))
  | double a, int b => some ((doubleOperand b).map fun b => .double (a.add b))
  | double a, double b => some (.ok (.double (a.add b)))
  | int a, decimal b => some ((Decimal.add decimalContext (.ofInt a) b).map Value.decimal)
  | decimal a, int b => some ((Decimal.add decimalContext a (.ofInt b)).map Value.decimal)
  | decimal a, decimal b => some ((Decimal.add decimalContext a b).map Value.decimal)
  | double _, decimal _ => none
  | decimal _, double _ => none

/-- The fault of a sum whose operands do not fit together. -/
def Value.sumFault (classOf : Nat → Text) (a b : Value) : Fault :=
  match a with
  | .text _ => .joining "str" (b.operandName classOf)
  | .list _ => .joining "list" (b.operandName classOf)
  | .tuple _ => .joining "tuple" (b.operandName classOf)
  | .bytes _ => .joiningBytes (b.operandName classOf)
  | a => .operands "+" (a.operandName classOf) (b.operandName classOf)

/-- The sum of two values. -/
def Value.add (classOf : Nat → Text) (a b : Value) : Except Fault Value :=
  match a, b with
  | .text a, .text b => .ok (.text (a ++ b))
  | .bytes a, .bytes b => .ok (.bytes (a ++ b))
  | .list a, .list b => .ok (.list (a ++ b))
  | .tuple a, .tuple b => .ok (.tuple (a ++ b))
  | a, b =>
    match a.number?, b.number? with
    | some x, some y => (x.add? y).getD (.error (a.sumFault classOf b))
    | _, _ => .error (a.sumFault classOf b)

/-- The sum of items from the left, beginning with zero. -/
def Value.sum (classOf : Nat → Text) (items : List Value) : Except Fault Value :=
  items.foldlM (fun total item => total.add classOf item) (.int 0)

/-- The quotient of a sum by a positive count. Integers divide into a floating number. -/
def Value.dividedBy (classOf : Nat → Text) (count : Nat) (total : Value) : Except Fault Value :=
  match total with
  | .int number =>
    match Double.ofQuotient? number count with
    | some quotient => .ok (.double quotient)
    | none => .error .quotientOverflow
  | .double number => .ok (.double (number.divideBy (.ofRatio false count 1)))
  | .decimal number => (number.divideBy decimalContext count).map Value.decimal
  | total => .error (.operands "/" (total.operandName classOf) "int")

end Stencil
