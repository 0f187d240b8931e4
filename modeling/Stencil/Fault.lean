import Stencil.Text.Quoted

/-!
# Faults

What can go wrong while values are read, compared, added, looked up and called. Each cause is a
constructor with the data that its message shows; `Fault.kind` is the word that reports the class
of a fault and `Fault.message` its wording. Classes of faults lie below others, and what answers for
a class answers for those below it as well (`Fault.isA`).
-/
namespace Stencil

/-- A failed operation on values. -/
inductive Fault
  /-- The operands of a sign have types that it does not combine. -/
  | operands (sign left right : Text)
  /-- Something else than another sequence of the type is joined to a sequence. -/
  | joining (whole part : Text)
  /-- Something else than bytes is joined to bytes. -/
  | joiningBytes (part : Text)
  /-- The operands of an order sign have types that are not ordered. -/
  | ordering (sign left right : Text)
  /-- An integer has more digits than may be read (their number is given) or written. -/
  | digitLimit (digits : Option Nat)
  /-- A text is no integer in a base. -/
  | notInteger (base : Nat) (text : Text)
  /-- A text is no floating number. -/
  | notFloat (text : Text)
  /-- A text is no boolean. -/
  | notBoolean (text : Text)
  /-- A text is no decimal. -/
  | notDecimal (text : Text)
  /-- A text is neither the value nor the name of a member of an enumeration. -/
  | notMember (enumeration text : Text)
  /-- An integer lies outside the range of floating numbers. -/
  | floatOverflow
  /-- The quotient of two integers lies outside the range of floating numbers. -/
  | quotientOverflow
  /-- An operation on decimals has no result. -/
  | decimalInvalid
  /-- The result of an operation on decimals lies outside their range. -/
  | decimalOverflow
  /-- A key is missing; the written form of the key is given. -/
  | missingKey (written : Text)
  /-- An object of a type lacks an attribute. -/
  | noAttribute (type name : Text)
  /-- A class lacks an attribute. -/
  | noClassAttribute (type name : Text)
  /-- A property is written to. -/
  | noSetter (name type : Text)
  /-- There is no logging level of a name. -/
  | noLevel (name : Text)
  /-- An attribute is named by a value of a type that is no text. -/
  | attributeName (type : Text)
  /-- A value of a type cannot be looked up in a table. -/
  | unhashable (type : Text)
  /-- A signaling undefined decimal is looked up in a table. -/
  | signalingKey
  /-- A value of a type is called. -/
  | notCallable (type : Text)
  /-- A value of a type is walked through. -/
  | notIterable (type : Text)
  /-- Something is looked for in a value of a type that holds nothing. -/
  | noContainer (type : Text)
  /-- A text is looked for in bytes. -/
  | textInBytes
  /-- A class without initializer is constructed from arguments. -/
  | noArguments (type : Text)
  /-- An initializer gives a value of a type back. -/
  | initializerResult (type : Text)
  /-- Arguments of a call are missing. -/
  | missingArguments (callee : Text) (keywordOnly : Bool) (names : List Text)
  /-- A call has more arguments than a callee with so many required and optional ones takes. -/
  | surplusArguments (callee : Text) (least most given : Nat)
  /-- A call has an unknown named argument. -/
  | unexpectedArgument (callee name : Text)
  /-- The greatest of no arguments is asked for. -/
  | noGreatestArgument
  /-- The greatest of no items is asked for. -/
  | noGreatestItem
  /-- A text is cut at an empty separator. -/
  | emptySeparator
  /-- A text's beginning or ending is compared with a value of a type that is no text. -/
  | affix (method type : Text)
  /-- An item that is no text is joined. -/
  | joinItem (index : Nat) (type : Text)
  /-- A text stands where an expression is needed. -/
  | notExpression (text : Text)
  /-- A position lies outside a list. -/
  | outOfRange
  /-- A number lacks its digits. -/
  | noDigits
  /-- A number beyond those of characters stands for one. -/
  | noCharacter (code : Nat)
  /-- A part of a date or of a time lies outside its range. -/
  | outsideCalendar (part : Text) (least most : Nat)
  /-- There is no year zero. -/
  | noYear
  /-- A month does not have so many days. -/
  | noDay
  /-- A clock is ahead of universal time by so many minutes, which is a day or more. -/
  | clockOffset (minutes : Int)
  /-- A logging level is neither a known name nor a number. -/
  | unknownLevel (written : Text)
  /-- A logging level is a value of a wrong type. -/
  | levelType (written : Text)
  /-- There is no settings file at a path. -/
  | noSettingsFile (path : Text)
  /-- A fault raised by what is called; the classes above its own are given, the nearest first. -/
  | raised (kind : Text) (above : List Text) (message : Text)
deriving DecidableEq, Repr

/-- The most digits that an integer may have where it is read or written. -/
def integerDigitLimit : Nat := 4300

/-- Names in quotes, separated as in a sentence. -/
def namesInSentence : List Text → Text
  | [] => []
  | [a] => "'" ++ a ++ "'"
  | [a, b] => "'" ++ a ++ "' and '" ++ b ++ "'"
  | names =>
    Text.join ", " (names.dropLast.map fun name => "'" ++ name ++ "'") ++ ", and '" ++
      names.getLastD [] ++ "'"

namespace Fault

/-- The word that reports the class of a fault. -/
def kind : Fault → Text
  | operands .. | joining .. | joiningBytes .. | ordering .. | unhashable .. | signalingKey
  | notCallable ..
  | notIterable .. | noContainer .. | textInBytes | noArguments .. | initializerResult ..
  | missingArguments .. | surplusArguments .. | unexpectedArgument .. | noGreatestArgument
  | affix .. | joinItem .. | attributeName .. | levelType .. => "TypeError"
  | digitLimit .. | notInteger .. | notFloat .. | notBoolean .. | notDecimal .. | notMember ..
  | noGreatestItem | emptySeparator | unknownLevel .. | outsideCalendar .. | noYear | noDay
  | clockOffset _ => "ValueError"
  | floatOverflow | quotientOverflow => "OverflowError"
  | noCharacter code => if code < 0x80000000 then "ValueError" else "OverflowError"
  | decimalInvalid => "InvalidOperation"
  | decimalOverflow => "Overflow"
  | missingKey .. => "KeyError"
  | noAttribute .. | noClassAttribute .. | noSetter .. | noLevel .. => "AttributeError"
  | notExpression .. => "SyntaxError"
  | outOfRange | noDigits => "IndexError"
  | noSettingsFile .. => "FileNotFoundError"
  | raised kind .. => kind

/-- How many arguments of a kind there are, as a message counts them. -/
def countedArguments (count : Nat) (kind : Text) : Text :=
  natText count ++ " " ++ kind ++ (if count = 1 then " argument" else " arguments")

/-- The wording of a fault. -/
def message : Fault → Text
  | operands sign left right =>
    "unsupported operand type(s) for " ++ sign ++ ": '" ++ left ++ "' and '" ++ right ++ "'"
  | joining whole part =>
    "can only concatenate " ++ whole ++ " (not \"" ++ part ++ "\") to " ++ whole
  | joiningBytes part => "can't concat " ++ part ++ " to bytes"
  | ordering sign left right =>
    "'" ++ sign ++ "' not supported between instances of '" ++ left ++ "' and '" ++ right ++ "'"
  | digitLimit digits =>
    "Exceeds the limit (" ++ natText integerDigitLimit ++
      " digits) for integer string conversion" ++
      (match digits with
        | some count => ": value has " ++ natText count ++ " digits"
        | none => []) ++
      "; use sys.set_int_max_str_digits() to increase the limit"
  | notInteger base text =>
    "invalid literal for int() with base " ++ natText base ++ ": " ++
      (Text.quoted text).take 200
  | notFloat text => "could not convert string to float: " ++ Text.quoted text
  | notBoolean text => "not a boolean: " ++ Text.quoted text
  | notDecimal text => "not a decimal: " ++ Text.quoted text
  | notMember enumeration text =>
    "not a member of " ++ enumeration ++ ": " ++ Text.quoted text
  | floatOverflow => "int too large to convert to float"
  | quotientOverflow => "integer division result too large for a float"
  | decimalInvalid => "[<class 'decimal.InvalidOperation'>]"
  | decimalOverflow => "[<class 'decimal.Overflow'>]"
  | missingKey written => written
  | noAttribute type name => "'" ++ type ++ "' object has no attribute '" ++ name ++ "'"
  | noClassAttribute type name => "type object '" ++ type ++ "' has no attribute '" ++ name ++ "'"
  | noSetter name type =>
    "property '" ++ name ++ "' of '" ++ type ++ "' object has no setter"
  | noLevel name => "module 'logging' has no attribute '" ++ name ++ "'"
  | attributeName type => "attribute name must be string, not '" ++ type ++ "'"
  | unhashable type => "unhashable type: '" ++ type ++ "'"
  | signalingKey => "Cannot hash a signaling NaN value"
  | notCallable type => "'" ++ type ++ "' object is not callable"
  | notIterable type => "'" ++ type ++ "' object is not iterable"
  | noContainer type => "argument of type '" ++ type ++ "' is not iterable"
  | textInBytes => "a bytes-like object is required, not 'str'"
  | noArguments type => type ++ "() takes no arguments"
  | initializerResult type => "__init__() should return None, not '" ++ type ++ "'"
  | missingArguments callee keywordOnly names =>
    callee ++ "() missing " ++
      countedArguments names.length
        (if keywordOnly then "required keyword-only" else "required positional") ++
      ": " ++ namesInSentence names
  | surplusArguments callee least most given =>
    callee ++ "() takes " ++
      (if least = most then natText most else "from " ++ natText least ++ " to " ++ natText most) ++
      (if most = 1 && least = most then " positional argument but "
        else " positional arguments but ") ++
      natText given ++ (if given = 1 then " was given" else " were given")
  | unexpectedArgument callee name =>
    callee ++ "() got an unexpected keyword argument '" ++ name ++ "'"
  | noGreatestArgument => "max expected at least 1 argument, got 0"
  | noGreatestItem => "max() arg is an empty sequence"
  | emptySeparator => "empty separator"
  | affix method type =>
    method ++ " first arg must be str or a tuple of str, not " ++ type
  | joinItem index type =>
    "sequence item " ++ natText index ++ ": expected str instance, " ++ type ++ " found"
  | notExpression text =>
    "Forward reference must be an expression -- got " ++ Text.quoted text
  | outOfRange => "list index out of range"
  | noDigits => "string index out of range"
  | noCharacter code =>
    if code < 0x80000000 then "chr() arg not in range(0x110000)"
    else "Python int too large to convert to C int"
  | outsideCalendar part least most =>
    part ++ " must be in " ++ natText least ++ ".." ++ natText most
  | noYear => "year 0 is out of range"
  | noDay => "day is out of range for month"
  | clockOffset minutes =>
    let seconds : Text :=
      if minutes.fmod 1440 = 0 then [] else ", seconds=" ++ intText (minutes.fmod 1440 * 60)
    "offset must be a timedelta strictly between -timedelta(hours=24) and " ++
      "timedelta(hours=24), not datetime.timedelta(days=" ++ intText (minutes.fdiv 1440) ++
      seconds ++ ")."
  | unknownLevel written => "Unknown level: " ++ written
  | levelType written => "Level not an integer or a valid string: " ++ written
  | noSettingsFile path => "No config found at " ++ path
  | raised _ _ message => message

end Fault

/-- The classes of faults that lie below others than that of all errors, with those above them. -/
def faultClasses : List (Text × List Text) :=
  [("OverflowError", ["ArithmeticError"]), ("ZeroDivisionError", ["ArithmeticError"]),
    ("FloatingPointError", ["ArithmeticError"]),
    ("InvalidOperation", ["DecimalException", "ArithmeticError"]),
    ("Overflow", ["Inexact", "Rounded", "DecimalException", "ArithmeticError"]),
    ("KeyError", ["LookupError"]), ("IndexError", ["LookupError"]),
    ("UnicodeError", ["ValueError"]), ("UnicodeDecodeError", ["UnicodeError", "ValueError"]),
    ("UnicodeEncodeError", ["UnicodeError", "ValueError"]), ("UnboundLocalError", ["NameError"]),
    ("IndentationError", ["SyntaxError"]), ("TabError", ["IndentationError", "SyntaxError"]),
    ("NotImplementedError", ["RuntimeError"]), ("RecursionError", ["RuntimeError"]),
    ("ModuleNotFoundError", ["ImportError"]), ("FileNotFoundError", ["OSError"]),
    ("FileExistsError", ["OSError"]), ("PermissionError", ["OSError"]),
    ("TimeoutError", ["OSError"]), ("ConnectionError", ["OSError"]),
    ("CompileError", ["SockitError"]), ("ClassificationError", ["CompileError", "SockitError"]),
    ("PatternModeError", ["SockitError"]), ("ResolutionError", ["SockitError"]),
    ("NonConformingInputError", ["SockitError"]), ("CoercionError", ["SockitError"]),
    ("ArgumentCoercionError", ["SockitError"]), ("InvocationError", ["SockitError"]),
    ("ConfigError", ["SockitError"])]

/-- The kinds of faults that end a program; all others are errors. -/
def endingKinds : List Text := ["KeyboardInterrupt", "SystemExit", "GeneratorExit", "BaseException"]

/-- The classes above that of the faults of a kind. -/
def classesAbove (kind : Text) : List Text :=
  if endingKinds.contains kind then ["BaseException"]
  else
    let errors : List Text := ["Exception", "BaseException"]
    (faultClasses.lookup kind).getD [] ++ errors

namespace Fault

/-- A fault of a kind that has a place of its own among the classes. -/
def ofKind (kind message : Text) : Fault := .raised kind (classesAbove kind) message

/-- The classes of a fault: its own, and those above. -/
def lineage : Fault → List Text
  | raised kind above _ => kind :: above
  | fault => fault.kind :: classesAbove fault.kind

/-- Whether a fault belongs to a class of faults. -/
def isA (fault : Fault) (name : Text) : Bool := fault.lineage.contains name

/-- A fault belongs to its own class. -/
theorem isA_kind (fault : Fault) : fault.isA fault.kind = true := by
  have first : fault.kind ∈ fault.lineage := by
    cases fault <;> exact List.mem_cons_self
  exact List.contains_iff_mem.mpr first

/-- A fault of the kind that a class is named by belongs to the class. -/
theorem isA_of_kind {fault : Fault} {name : Text} (same : fault.kind = name) :
    fault.isA name = true := same ▸ fault.isA_kind

end Fault
end Stencil
