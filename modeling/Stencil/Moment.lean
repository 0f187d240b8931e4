import Stencil.Fault
import Stencil.Number.Rounding

/-!
# Dates and times

A date of the calendar, alone or with a time of day. Two dates with times are compared only if
both or none say how far their clocks are from universal time.
-/
namespace Stencil

/-- A time of day. -/
structure Clock where
  /-- The hour. -/
  hour : Nat
  /-- The minute. -/
  minute : Nat
  /-- The second. -/
  second : Nat
  /-- The millionths of a second. -/
  fraction : Nat
  /-- How many minutes the clock is ahead of universal time, if it is known. -/
  offset : Option Int
deriving DecidableEq, Repr

/-- A date, alone or with a time of day. -/
structure Moment where
  /-- The year. -/
  year : Nat
  /-- The month. -/
  month : Nat
  /-- The day of the month. -/
  day : Nat
  /-- The time of day. -/
  clock : Option Clock
deriving DecidableEq, Repr

namespace Moment

/-- Whether a year has a leap day. -/
def isLeapYear (year : Nat) : Bool := year % 4 = 0 && (year % 100 ≠ 0 || year % 400 = 0)

/-- The days before each month of a year without a leap day. -/
def daysBefore : List Nat := [0, 31, 59, 90, 120, 151, 181, 212, 243, 273, 304, 334, 365]

/-- How many days of a year pass before a month. -/
def daysBeforeMonth (year month : Nat) : Nat :=
  daysBefore.getD (month - 1) 0 + if 2 < month && isLeapYear year then 1 else 0

/-- How many days a month has. -/
def daysInMonth (year month : Nat) : Nat :=
  daysBeforeMonth year (month + 1) - daysBeforeMonth year month

/-- A part of a moment must lie between two numbers. -/
def checkPart (part : Text) (least most number : Nat) : Except Fault Unit :=
  if least ≤ number ∧ number ≤ most then .ok () else .error (.outsideCalendar part least most)

/-- A moment of the calendar; the first part that lies outside is reported. -/
def check (moment : Moment) : Except Fault Moment := do
  match moment.clock.bind Clock.offset with
  | some offset => if 24 * 60 ≤ offset.natAbs then throw (.clockOffset offset)
  | none => pure ()
  if moment.year = 0 then throw .noYear
  checkPart "month" 1 12 moment.month
  if moment.day = 0 ∨ daysInMonth moment.year moment.month < moment.day then throw .noDay
  match moment.clock with
  | some clock =>
    checkPart "hour" 0 23 clock.hour
    checkPart "minute" 0 59 clock.minute
    checkPart "second" 0 59 clock.second
  | none => pure ()
  return moment

/-- A number filled up with zeros to a width. -/
def padded (width n : Nat) : Text :=
  let digits := natText n
  List.replicate (width - digits.length) '0' ++ digits

/-- How far a clock is ahead, in hours and minutes. -/
def offsetText (offset : Int) : Text :=
  (if offset < 0 then '-' else '+') :: padded 2 (offset.natAbs / 60) ++ ":" ++
    padded 2 (offset.natAbs % 60)

/-- A time of day for a reader. -/
def clockText (clock : Clock) : Text :=
  let fraction : Text := if clock.fraction = 0 then [] else '.' :: padded 6 clock.fraction
  padded 2 clock.hour ++ ":" ++ padded 2 clock.minute ++ ":" ++ padded 2 clock.second ++
    fraction ++ ((clock.offset.map offsetText).getD [])

/-- A moment for a reader: the date, and the time behind a space. -/
def shown (moment : Moment) : Text :=
  padded 4 moment.year ++ "-" ++ padded 2 moment.month ++ "-" ++ padded 2 moment.day ++
    ((moment.clock.map fun clock => ' ' :: clockText clock).getD [])

/-- How far a clock is ahead, in days and seconds. -/
def writtenOffset (offset : Int) : Text :=
  if offset = 0 then "datetime.timezone.utc"
  else
    let days := offset.fdiv (24 * 60)
    let seconds := offset.fmod (24 * 60) * 60
    let parts : List (Text × Int) := [("days=", days), ("seconds=", seconds)]
    let parts := (parts.filter fun part => part.2 ≠ 0).map fun (name, part) => name ++ intText part
    "datetime.timezone(datetime.timedelta(" ++ Text.join ", " parts ++ "))"

/-- The parts of a time, without a second and a fraction that are zero. -/
def clockParts (clock : Clock) : List Nat :=
  [clock.hour, clock.minute] ++
    (if clock.fraction ≠ 0 then [clock.second, clock.fraction]
      else if clock.second ≠ 0 then [clock.second]
      else [])

/-- The word for the type of a moment. -/
def typeName (moment : Moment) : Text := if moment.clock.isSome then "datetime" else "date"

/-- A moment as it appears inside a collection. -/
def written (moment : Moment) : Text :=
  let parts := [moment.year, moment.month, moment.day] ++
    ((moment.clock.map clockParts).getD [])
  let zone : List Text := match moment.clock.bind Clock.offset with
    | some offset => ["tzinfo=" ++ writtenOffset offset]
    | none => []
  "datetime." ++ moment.typeName ++ "(" ++ Text.join ", " (parts.map natText ++ zone) ++ ")"

/-- How many days passed before a date since the beginning of the calendar. -/
def dayNumber (moment : Moment) : Nat :=
  let years := moment.year - 1
  years * 365 + years / 4 - years / 100 + years / 400 +
    daysBeforeMonth moment.year moment.month + moment.day

/-- How many millionths of a second passed before a moment, by universal time if it is known. -/
def instant (moment : Moment) : Int :=
  match moment.clock with
  | none => moment.dayNumber
  | some clock =>
    let minutes : Int :=
      moment.dayNumber * 1440 + clock.hour * 60 + clock.minute - clock.offset.getD 0
    (minutes * 60 + clock.second) * 1000000 + clock.fraction

/-- Whether two moments can be compared: both are dates, or both are known as well as the other. -/
def isComparable (a b : Moment) : Bool :=
  a.clock.isSome = b.clock.isSome &&
    (a.clock.bind Clock.offset).isSome = (b.clock.bind Clock.offset).isSome

/-- Whether two moments are the same. -/
def same (a b : Moment) : Bool := a.isComparable b && a.instant = b.instant

/-- A part of a moment by its name. -/
def part? (moment : Moment) (name : Text) : Option Nat :=
  let ofClock := fun part : Clock → Nat => moment.clock.map part
  if name = "year" then some moment.year
  else if name = "month" then some moment.month
  else if name = "day" then some moment.day
  else if name = "hour" then ofClock Clock.hour
  else if name = "minute" then ofClock Clock.minute
  else if name = "second" then ofClock Clock.second
  else if name = "microsecond" then ofClock Clock.fraction
  else none

/-- Read a number of some digits at the beginning of a text. -/
def takePart (least most : Nat) (text : Text) : Option (Nat × Text) :=
  let digits := (text.takeWhile Char.isDigit).take most
  if digits.length < least then none
  else some (digits.foldl (fun n digit => n * 10 + (digit.toNat - 48)) 0,
    text.drop digits.length)

/-- Read a sign. -/
def takeSign (sign : Char) : Text → Option Text
  | char :: rest => if char = sign then some rest else none
  | [] => none

/-- Read how far a clock is ahead, up to the end of a text: nothing, the letter `Z`, or a sign and
hours, with or without minutes. -/
def readOffset (text : Text) : Option (Option Int) :=
  if text.isEmpty then some none
  else
    match text.dropWhile fun char => char = ' ' || char = '\t' with
    | ['Z'] => some (some 0)
    | sign :: rest => do
      if sign ≠ '+' ∧ sign ≠ '-' then none
      else
        let (hours, rest) ← takePart 1 2 rest
        let minutes ←
          if rest.isEmpty then some 0
          else do
            let (minutes, rest) ← takePart 2 2 (← takeSign ':' rest)
            if rest.isEmpty then some minutes else none
        let offset : Int := (hours * 60 + minutes : Nat)
        return some (if sign = '-' then -offset else offset)
    | [] => none

/-- Read a time of day up to the end of a text. -/
def readClock (text : Text) : Option Clock := do
  let (hour, text) ← takePart 1 2 text
  let (minute, text) ← takePart 2 2 (← takeSign ':' text)
  let (second, text) ← takePart 2 2 (← takeSign ':' text)
  let (digits, text) := match text with
    | '.' :: rest => (rest.takeWhile Char.isDigit, rest.dropWhile Char.isDigit)
    | text => ([], text)
  let fraction := (digits ++ List.replicate 6 '0').take 6
  let (fraction, _) ← takePart 6 6 fraction
  let offset ← readOffset text
  return ⟨hour, minute, second, fraction, offset⟩

/-- Read a date, alone or before a time of day; whether there are such a date and time is not
looked at. -/
def read? (text : Text) : Option Moment := do
  let (year, text) ← takePart 4 4 text
  let (month, text) ← takePart 1 2 (← takeSign '-' text)
  let (day, text) ← takePart 1 2 (← takeSign '-' text)
  match text with
  | [] => return ⟨year, month, day, none⟩
  | char :: rest =>
    if char = 'T' ∨ char = 't' then return ⟨year, month, day, some (← readClock rest)⟩
    else if char = ' ' ∨ char = '\t' then
      let rest := rest.dropWhile fun char => char = ' ' || char = '\t'
      return ⟨year, month, day, some (← readClock rest)⟩
    else none

/-- Whether a text is a moment in the form that needs no tag: a date alone has two digits for the
month and the day. -/
def isPlainText (text : Text) : Bool :=
  match read? text with
  | some moment => moment.clock.isSome || text.length = 10
  | none => false

end Moment
end Stencil
