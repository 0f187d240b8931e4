import Stencil.Annotation.Expected
import Stencil.Text.Blank

/-!
# Scopes

A text that is read as an expression denotes an expected type, or fails to. A scope says which, for
every text, in one place: for a text that is read by itself, and for one that refers to a type, where
the absent value stands for its type and texts inside refer to types in turn. Both readings fail
alike, and agree on what holds neither (`Expected.isDirect`).
-/
namespace Stencil

namespace Expected

mutual

/-- Whether a text that is still to be looked up stands in an expected type. -/
def holdsText : Expected → Bool
  | .forward _ => true
  | .constant (.text _) => true
  | .union _ alternatives => anyHoldsText alternatives
  | .listOf item => holdsText item
  | _ => false

/-- Whether a text that is still to be looked up stands in one of some expected types. -/
def anyHoldsText : List Expected → Bool
  | [] => false
  | expected :: rest => holdsText expected || anyHoldsText rest

end

/-- Whether an expected type is what it is as a type reference too: it is not the absent value, and
no text stands in it. -/
def isDirect : Expected → Bool
  | .nothing => false
  | expected => !expected.holdsText

/-- An expected type in the place of a type: the absent value stands for its type, and a tuple is
refused. -/
def asType : Expected → Except Fault Expected
  | .nothing => .ok (.plain .nothing)
  | .constant (.tuple _) => .error (.ofKind "TypeError" [])
  | expected => .ok expected

/-- What a direct expected type stands for is the type itself. -/
theorem eq_of_asType {own expected : Expected} (direct : own.isDirect = true)
    (found : own.asType = .ok expected) : expected = own := by
  unfold asType at found
  split at found
  · contradiction
  · contradiction
  · exact (Except.ok.inj found).symm

end Expected

/-- What texts denote as expressions in one place. -/
structure Scope where
  /-- Whether a text is an expression. -/
  compiles : Text → Bool
  /-- What a text denotes. -/
  denotes : Text → Except Fault Expected
  /-- What a text denotes as a reference to a type. -/
  refers : Text → Except Fault Expected
  /-- A text that is no expression denotes nothing. -/
  denotes_malformed : ∀ text, compiles text = false → denotes text = .error (.notExpression text)
  /-- A text that denotes nothing refers to nothing. -/
  refers_fails : ∀ text fault, denotes text = .error fault → refers text = .error fault
  /-- A text refers to what it denotes if that is direct. -/
  refers_direct : ∀ text own expected, denotes text = .ok own → own.isDirect = true →
    refers text = .ok expected → expected = own

namespace Scope

/-- The scope in which texts denote expected types that hold no texts. -/
def ofReading (read : Text → Option (Except Fault Expected)) : Scope where
  compiles text := (read text).isSome
  denotes text := (read text).getD (.error (.notExpression text))
  refers text := ((read text).getD (.error (.notExpression text))).bind Expected.asType
  denotes_malformed := by
    intro text malformed
    rw [Option.isSome_eq_false_iff, Option.isNone_iff_eq_none] at malformed
    rw [malformed]
    rfl
  refers_fails := by
    intro text fault failed
    rw [failed]
    rfl
  refers_direct := by
    intro text own expected found direct refers
    rw [found] at refers
    exact Expected.eq_of_asType direct refers

/-- A scope in which some texts denote what is known of them, and the others what they denote in
another one. -/
def extend (scope : Scope) (known? : Text → Option Expected) : Scope where
  compiles text := (known? text).isSome || scope.compiles text
  denotes text :=
    match known? text with
    | some expected => .ok expected
    | none => scope.denotes text
  refers text :=
    match known? text with
    | some expected => expected.asType
    | none => scope.refers text
  denotes_malformed := by
    intro text malformed
    obtain ⟨unknown, malformed⟩ := Bool.or_eq_false_iff.mp malformed
    rw [Option.isSome_eq_false_iff, Option.isNone_iff_eq_none] at unknown
    rw [unknown]
    exact scope.denotes_malformed text malformed
  refers_fails := by
    intro text fault failed
    cases found : known? text with
    | some expected =>
      rw [found] at failed
      contradiction
    | none =>
      rw [found] at failed
      exact scope.refers_fails text fault failed
  refers_direct := by
    intro text own expected denotes direct refers
    cases found : known? text with
    | some known =>
      rw [found] at denotes refers
      obtain rfl := Except.ok.inj denotes
      exact Expected.eq_of_asType direct refers
    | none =>
      rw [found] at denotes refers
      exact scope.refers_direct text own expected denotes direct refers

end Scope

/-! ### Names -/

/-- The plain types that have a name of their own. -/
def plainTypes : List PlainType :=
  [.int, .float, .bool, .text, .decimal, .object, .list, .mapping, .bytes, .tuple, .set, .complex,
    .type]

/-- What a name denotes everywhere. -/
def predefinedName? (name : Text) : Option Expected :=
  if name = "Any" then some .any
  else if name = "None" then some .nothing
  else (plainTypes.find? fun kind => kind.name == name).map .plain

/-- Whether a character may stand in a name. -/
def isNameChar (char : Char) : Bool := char.isAlphanum || char == '_' || 127 < char.toNat

/-- Whether a text is a name. -/
def isName : Text → Bool
  | [] => false
  | first :: rest => !first.isDigit && (first :: rest).all isNameChar

/-- A text without the parentheses around it, and without the blanks at its ends. -/
def dropParentheses (text : Text) : Text :=
  match Text.strip text with
  | '(' :: rest => if rest.getLast? = some ')' then Text.strip rest.dropLast else '(' :: rest
  | stripped => stripped

/-- What a text denotes where nothing but the predefined names is known, if it is a name, a whole
number, or an attribute of the type of integers, which is taken to be missing; other texts are taken
to be no expressions. -/
def readPredefined (source : Text) : Option (Except Fault Expected) :=
  match dropParentheses source with
  | [] => none
  | ('i' :: 'n' :: 't' :: '.' :: field) =>
    if isName field then some (.error (.noClassAttribute "int" field)) else none
  | inner =>
    if inner.all Char.isDigit then some (.ok (.constant (.int (plainValue inner))))
    else if isName inner then
      match predefinedName? inner with
      | some expected => some (.ok expected)
      | none => some (.error (.ofKind "NameError" []))
    else none

/-- The scope of the predefined names. -/
def Scope.predefined : Scope := .ofReading readPredefined

end Stencil
