import TermSearch.Decimal.Binary64

/-! Civil dates and times in the Gregorian calendar, years 1 to 9999, and the instants they stand
for. A time without an offset is read as universal time. Instants are compared and stored as 64-bit
numbers of seconds, so that far from 1970 some microseconds are rounded away. -/
namespace TermSearch.Calendar

/-- A date and a time of day, with the offset from universal time in microseconds where one is known. -/
structure CivilTime where
  year : Nat
  month : Nat
  day : Nat
  hour : Nat
  minute : Nat
  second : Nat
  microsecond : Nat
  offset : Option Int
  deriving DecidableEq, Repr, Inhabited

def isLeap (year : Nat) : Bool := year % 4 == 0 && (year % 100 != 0 || year % 400 == 0)

def monthLengths (leap : Bool) : List Nat :=
  [31, if leap then 29 else 28, 31, 30, 31, 30, 31, 31, 30, 31, 30, 31]

/-- The number of days of a month, zero for a month that does not exist. -/
def daysInMonth (year month : Nat) : Nat :=
  if month = 0 then 0 else (monthLengths (isLeap year)).getD (month - 1) 0

/-- The number of days from the first day of the year 1 to the first day of a year. -/
def daysBeforeYear (year : Nat) : Nat :=
  let y := year - 1
  y * 365 + y / 4 - y / 100 + y / 400

/-- The number of days of a year before a month. -/
def daysBeforeMonth (year month : Nat) : Nat :=
  ((monthLengths (isLeap year)).take (month - 1)).foldl (· + ·) 0

/-- The number of days from the first day of the year 1 to a date. -/
def dayNumber (year month day : Nat) : Nat :=
  daysBeforeYear year + daysBeforeMonth year month + (day - 1)

/-- The day number of the first of January 1970. -/
def epochDay : Nat := 719162

example : dayNumber 1970 1 1 = epochDay := by decide

/-- The month and day at a place in a list of month lengths, counted from a given month on. -/
def monthAndDay (month : Nat) : List Nat → Nat → Nat × Nat
  | [], day => (month, day + 1)
  | length :: rest, day =>
    if day < length then (month, day + 1) else monthAndDay (month + 1) rest (day - length)

/-- The year, month and day of a day number, which may lie before the year 1. -/
def dateOfDay (n : Int) : Int × Nat × Nat :=
  let cycle := n / 146097
  let inCycle := (n % 146097).toNat
  let century := min (inCycle / 36524) 3
  let inCentury := inCycle - century * 36524
  let quad := inCentury / 1461
  let inQuad := inCentury % 1461
  let single := min (inQuad / 365) 3
  let inYear := inQuad - single * 365
  let yearInCycle := 100 * century + 4 * quad + single + 1
  let (month, day) := monthAndDay 1 (monthLengths (isLeap yearInCycle)) inYear
  (400 * cycle + yearInCycle, month, day)

example : dateOfDay epochDay = (1970, 1, 1) := by decide
example : dateOfDay (-1) = (0, 12, 31) := by decide

namespace CivilTime

/-- Whether every part of a time lies in its range. -/
def isValid (t : CivilTime) : Bool :=
  1 ≤ t.year && t.year ≤ 9999 && 1 ≤ t.month && t.month ≤ 12 && 1 ≤ t.day &&
    t.day ≤ daysInMonth t.year t.month && t.hour ≤ 23 && t.minute ≤ 59 && t.second ≤ 59 &&
    t.microsecond ≤ 999999

/-- Whether the offset of a time, if it has one, is less than a day. -/
def hasNearOffset (t : CivilTime) : Bool := t.offset.all fun us => us.natAbs < 86400 * 1000000

/-- What is said of a time whose offset is a day or more. -/
def farOffsetMessage : String :=
  "offset must be a timedelta strictly between -timedelta(hours=24) and timedelta(hours=24)."

/-- The microseconds from the start of 1970 in universal time to a time. -/
def microseconds (t : CivilTime) : Int :=
  let days : Int := (dayNumber t.year t.month t.day : Int) - epochDay
  let seconds : Int := days * 86400 + (t.hour * 3600 + t.minute * 60 + t.second : Nat)
  seconds * 1000000 + t.microsecond - t.offset.getD 0

/-- The nearest 64-bit number of seconds to a number of microseconds, in units of `2 ^ -52`. -/
def roundedSeconds (us : Int) : Int :=
  let whole := us.natAbs / 1000000
  let bits := whole.log2
  let size := Decimal.roundDiv (us.natAbs * Nat.pow 2 (52 - bits)) 1000000 * Nat.pow 2 bits
  if us < 0 then -(size : Int) else size

/-- The instant of a time as it is compared: seconds in units of `2 ^ -52`. -/
def instant (t : CivilTime) : Int := roundedSeconds t.microseconds

/-- The instant of a time in whole seconds, without its fraction. -/
def wholeSeconds (t : CivilTime) : Int := t.instant.tdiv (Nat.pow 2 52 : Nat)

/-- A year that the calendar does not reach. -/
structure YearOutOfRange where
  year : Int
  deriving DecidableEq, Repr

def YearOutOfRange.message (e : YearOutOfRange) : String :=
  "year " ++ toString e.year ++ " is out of range"

/-- The time in universal time at a number of seconds from the start of 1970. -/
def ofSeconds? (seconds : Int) : Except YearOutOfRange CivilTime :=
  let (year, month, day) := dateOfDay (seconds / 86400 + epochDay)
  let inDay := (seconds % 86400).toNat
  if 1 ≤ year ∧ year ≤ 9999 then
    .ok {
      year := year.toNat
      month := month
      day := day
      hour := inDay / 3600
      minute := inDay % 3600 / 60
      second := inDay % 60
      microsecond := 0
      offset := some 0 }
  else .error ⟨year⟩

end CivilTime

end TermSearch.Calendar
