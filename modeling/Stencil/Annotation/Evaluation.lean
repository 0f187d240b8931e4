import Stencil.Annotation.Scope

/-!
# Annotations and their evaluation

An annotation is an expression that denotes an expected type. It is evaluated in a scope, either
alone (`Annotated.alone`), where the absent value stands for itself, or as a type reference
(`Annotated.reference`), where the absent value stands for its type and a text for what it spells.
-/
namespace Stencil

/-- An expression that denotes an expected type. -/
inductive Annotation
  /-- A plain type. -/
  | plain (kind : PlainType)
  /-- Any value. -/
  | any
  /-- The absent value. -/
  | nothing
  /-- A name to be looked up. -/
  | named (name : Text)
  /-- A type or the absent value. -/
  | optional (alternative : Annotation)
  /-- A union of alternatives. -/
  | union (alternatives : List Annotation)
  /-- Alternatives between bars. -/
  | bars (alternatives : List Annotation)
  /-- A list of items. -/
  | listOf (item : Annotation)
  /-- A value. -/
  | constant (value : Value)
  /-- An attribute of the type of integers. -/
  | attribute (name : Text)
  /-- A text that has to be read as an expression. -/
  | source (text : Text)

/-- Whether a value can stand between bars as a type. -/
def Expected.isAlternative : Expected → Bool
  | .constant _ | .forward _ => false
  | _ => true

/-- Whether an expected type is a union that is not spelled with bars. -/
def Expected.isSpelledUnion : Expected → Bool
  | .union false _ => true
  | _ => false

/-- The fault of a value that stands where a type is needed. -/
def operandFault : Fault := .ofKind "TypeError" []

/-- A value as an alternative of a union: a text is a reference still to be looked up, and a tuple is
refused. -/
def Scope.alternative (scope : Scope) : Expected → Except Fault Expected
  | .constant (.text source) =>
    if scope.compiles source then .ok (.forward source) else .error (.notExpression source)
  | .constant (.tuple _) => .error operandFault
  | expected => .ok expected

/-- The union of alternatives, spelled out. -/
def Scope.spelledUnion (scope : Scope) (alternatives : List Expected) : Except Fault Expected := do
  let alternatives ← alternatives.mapM scope.alternative
  return Expected.unionOf false alternatives

/-- Two alternatives with a bar between them. Beside a union that is spelled out the result is one
too; otherwise both must be types, at most one of them the absent value. -/
def Scope.bar (scope : Scope) (a b : Expected) : Except Fault Expected :=
  if a.isSpelledUnion || b.isSpelledUnion then scope.spelledUnion [a, b]
  else
    match a, b with
    | .nothing, .nothing => .error operandFault
    | a, b =>
      if a.isAlternative && b.isAlternative then .ok (Expected.unionOf true [a, b])
      else .error operandFault

namespace Annotation

mutual

/-- How an annotation is spelled. -/
def spelled : Annotation → Text
  | .plain kind => kind.name
  | .any => "Any"
  | .nothing => "None"
  | .named name => name
  | .optional alternative => "Optional[" ++ spelled alternative ++ "]"
  | .union alternatives => "Union[" ++ Text.join ", " (spelledAll alternatives) ++ "]"
  | .bars alternatives => Text.join " | " (spelledAll alternatives)
  | .listOf item => "list[" ++ spelled item ++ "]"
  | .constant _ => "constant"
  | .attribute name => "int." ++ name
  | .source text => text

/-- How annotations are spelled. -/
def spelledAll : List Annotation → List Text
  | [] => []
  | annotation :: rest => spelled annotation :: spelledAll rest

end

mutual

/-- Whether an annotation can be read as an expression. -/
def isExpression (scope : Scope) : Annotation → Bool
  | .source text => scope.compiles text
  | .optional alternative => isExpression scope alternative
  | .union alternatives | .bars alternatives => areExpressions scope alternatives
  | .listOf item => isExpression scope item
  | _ => true

/-- Whether annotations can be read as expressions. -/
def areExpressions (scope : Scope) : List Annotation → Bool
  | [] => true
  | annotation :: rest => isExpression scope annotation && areExpressions scope rest

end

/-- What an annotation without parts denotes. -/
def evaluateLeaf (scope : Scope) : Annotation → Except Fault Expected
  | .plain kind => .ok (.plain kind)
  | .any => .ok .any
  | .nothing => .ok .nothing
  | .named name => scope.denotes name
  | .constant value => .ok (.ofValue value)
  | .attribute name => scope.denotes ("int." ++ name)
  | .source text => scope.denotes text
  | _ => .error operandFault

mutual

/-- What an annotation denotes, its parts evaluated from the left. -/
def evaluate (scope : Scope) : Annotation → Except Fault Expected
  | .optional alternative => do
    let alternative ← evaluate scope alternative
    scope.spelledUnion [alternative, .plain .nothing]
  | .union alternatives => do
    let alternatives ← evaluateAll scope alternatives
    scope.spelledUnion alternatives
  | .bars [] => .error operandFault
  | .bars (first :: rest) => do
    let first ← evaluate scope first
    evaluateBars scope first rest
  | .listOf item => do
    let item ← evaluate scope item
    return .listOf item
  | leaf => evaluateLeaf scope leaf

/-- What annotations denote, from the left. -/
def evaluateAll (scope : Scope) : List Annotation → Except Fault (List Expected)
  | [] => .ok []
  | annotation :: rest => do
    let expected ← evaluate scope annotation
    let rest ← evaluateAll scope rest
    return expected :: rest

/-- What alternatives between bars denote, given those to the left. -/
def evaluateBars (scope : Scope) (left : Expected) : List Annotation → Except Fault Expected
  | [] => .ok left
  | annotation :: rest => do
    let right ← evaluate scope annotation
    let both ← scope.bar left right
    evaluateBars scope both rest

end

end Annotation

mutual

/-- An expected type with the references in it looked up. -/
def Scope.settleWithin (scope : Scope) : Expected → Except Fault Expected
  | .forward source => scope.refers source
  | .union bars alternatives => do
    let alternatives ← scope.settleAll alternatives
    return Expected.unionOf bars alternatives
  | .listOf (.constant (.text source)) => do
    let item ← scope.refers source
    return .listOf item
  | .listOf item => do
    let item ← scope.settleWithin item
    return .listOf item
  | expected => .ok expected

/-- Expected types with the references in them looked up, from the left. -/
def Scope.settleAll (scope : Scope) : List Expected → Except Fault (List Expected)
  | [] => .ok []
  | expected :: rest => do
    let expected ← scope.settleWithin expected
    let rest ← scope.settleAll rest
    return expected :: rest

end

/-- An expected type with the references in it looked up; without one it is left as it is. -/
def Scope.settle (scope : Scope) (expected : Expected) : Except Fault Expected :=
  if expected.holdsText then scope.settleWithin expected else .ok expected

/-- What a value in the place of an annotation refers to: a text is looked up, and so are the texts in
the type that another value stands for. -/
def Scope.typeOf (scope : Scope) : Expected → Except Fault Expected
  | .constant (.text source) => scope.refers source
  | value => value.asType >>= scope.settle

/-- What a value in the place of an annotation denotes: a text is an expression in turn. -/
def Scope.valueOf (scope : Scope) : Expected → Except Fault Expected
  | .constant (.text source) => scope.denotes source
  | value => .ok value

/-- Whether a faulty annotation leaves its neighbours to be evaluated alone. -/
def Fault.isRecoverable (fault : Fault) : Bool := fault.isA "NameError" || fault.isA "TypeError"

/-- Whether an annotation that is faulty alone expects anything. -/
def Fault.isPassedOver (fault : Fault) : Bool :=
  fault.isA "NameError" || fault.isA "AttributeError" || fault.isA "SyntaxError" ||
    fault.isA "TypeError"

/-- An annotation where it stands in a declaration. -/
structure Annotated where
  /-- The expression. -/
  annotation : Annotation
  /-- Whether it is kept as text until it is needed. One that is not has its value from the
  declaration on; its expression spells that value with what is known everywhere. -/
  quoted : Bool

namespace Annotated

/-- What an annotation denotes as an expression. A quoted one must be an expression as a whole before
any part of it is evaluated. -/
def evaluate (scope : Scope) (annotated : Annotated) : Except Fault Expected :=
  if annotated.quoted && !annotated.annotation.isExpression scope then
    .error (.notExpression annotated.annotation.spelled)
  else annotated.annotation.evaluate scope

/-- The text that an annotation is kept as, if that is given as such. -/
def source? (annotated : Annotated) : Option Text :=
  match annotated.annotation with
  | .source text => if annotated.quoted then some text else none
  | _ => none

/-- What an annotation denotes as a type reference. -/
def reference (scope : Scope) (annotated : Annotated) : Except Fault Expected :=
  match annotated.source? with
  | some source => scope.refers source
  | none => annotated.evaluate scope >>= scope.typeOf

/-- What an annotation denotes read alone. -/
def denotes (scope : Scope) (annotated : Annotated) : Except Fault Expected :=
  if annotated.quoted then annotated.evaluate scope else annotated.evaluate scope >>= scope.valueOf

/-- What is read of an annotation alone: one that fails in the usual ways expects anything. -/
def alone (scope : Scope) (annotated : Annotated) : Except Fault Expected :=
  match annotated.denotes scope with
  | .ok expected => .ok expected
  | .error fault => if fault.isPassedOver then .ok .any else .error fault

/-- Whether the annotation is the absent value itself, not kept as text. -/
def isBareNothing (annotated : Annotated) : Bool :=
  match annotated.annotation with
  | .nothing => !annotated.quoted
  | _ => false

end Annotated
end Stencil
