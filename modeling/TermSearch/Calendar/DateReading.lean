import TermSearch.Calendar.CivilTime
import TermSearch.Calendar.DateWords
import TermSearch.Decimal.Significant
import TermSearch.Text.CharSet

/-! What is known of a written date while it is read: up to three numbers, some with a role, the time of
day and the zone. A number of more than two digits is a year. -/
namespace TermSearch.Calendar

open Decimal (Fraction)

inductive DateFault
  /-- It has not the form of a date, or it names a day or a time that does not exist. -/
  | unreadable
  /-- A number of hours or minutes has more digits in front of its point than are reckoned with. -/
  | tooGreat
  deriving DecidableEq, Repr

/-- What was read, where it could be read. -/
def readable {α : Type} : Option α → Except DateFault α
  | some a => .ok a
  | none => .error .unreadable

/-- The number of digits that are reckoned with. -/
def reckonedDigits : Nat := 28

/-- A decimal number: its whole part, and its fraction as a numerator over a power of ten. -/
structure Amount where
  whole : Nat
  numerator : Nat
  places : Nat
  deriving DecidableEq, Repr

namespace Amount

/-- The amount of a token of digits with an optional fraction. -/
def ofToken? (token : List Char) : Option Amount :=
  let whole := token.takeWhile (· != '.')
  match token.dropWhile (· != '.') with
  | [] => (Text.numberOf? whole).map (⟨·, 0, 0⟩)
  | _ :: fraction => do
    let n ← Text.numberOf? whole
    let f ← Text.numberOf? fraction
    return ⟨n, f, fraction.length⟩

/-- The whole part of sixty times the fraction, if there is a fraction. The fraction and the product are
rounded to the digits that are reckoned with. -/
def sixtieths (a : Amount) : Except DateFault (Option Nat) :=
  if Nat.pow 10 reckonedDigits ≤ a.whole then .error .tooGreat
  else if a.numerator = 0 then .ok none
  else
    let fraction := (Fraction.mk a.numerator a.places).keep reckonedDigits
    .ok (some ((fraction.times 60).keep reckonedDigits).whole)

example : (sixtieths ⟨10, 25, 2⟩).toOption = some (some 15) := by decide +kernel
example : (sixtieths ⟨Nat.pow 10 28, 0, 0⟩).toOption = none := by decide +kernel

def isWithin (a : Amount) (bound : Nat) : Bool :=
  1 ≤ a.whole && (a.whole < bound || (a.whole == bound && a.numerator == 0))

end Amount

/-- The part of a date that a number is known to be. -/
inductive Role
  | year | month | day
  deriving DecidableEq, Repr

/-- A number of a date with its role, where the role is known. -/
structure DatePart where
  value : Nat
  role : Option Role
  deriving DecidableEq, Repr

structure Reading where
  parts : List DatePart := []
  fullYear : Bool := false
  weekday : Option Nat := none
  hour : Option Nat := none
  minute : Option Nat := none
  second : Option Nat := none
  microsecond : Option Nat := none
  zone : Option String := none
  offset : Option Int := none
  deriving Repr, Inhabited

namespace Reading

def placeOf? (r : Reading) (role : Role) : Option Nat := r.parts.findIdx? fun p => p.role == some role

def valueOf? (r : Reading) (role : Role) : Option Nat :=
  (r.parts.find? fun p => p.role == some role).map DatePart.value

/-- Adds a number with a role that no other number may have. -/
def addPart (r : Reading) (value : Nat) (role : Option Role) : Option Reading :=
  if role.isSome && (r.parts.any fun p => p.role == role) then none
  else some { r with parts := r.parts ++ [⟨value, role⟩] }

/-- Adds a number that was written as a text of digits; more than two digits are a year. -/
def addDigits (r : Reading) (token : String) (role : Option Role) : Option Reading := do
  let value ← Text.naturalOf? token.toList
  if 2 < token.length then
    if role == none || role == some .year then
      addPart { r with fullYear := true } value (some .year)
    else none
  else r.addPart value role

/-- Adds an amount; more than a hundred are a year. -/
def addAmount (r : Reading) (a : Amount) : Option Reading :=
  if 100 < a.whole ∨ (a.whole = 100 ∧ a.numerator ≠ 0) then
    addPart { r with fullYear := true } a.whole (some .year)
  else r.addPart a.whole none

def mayBeDay (r : Reading) (a : Amount) : Bool :=
  if (r.placeOf? .day).isSome then false
  else
    match r.valueOf? .month, r.valueOf? .year with
    | none, _ => a.isWithin 31
    | some month, none => a.isWithin (daysInMonth 2000 month)
    | some month, some year => a.isWithin (daysInMonth year month)

/-- Sets seconds from a token with an optional fraction, of which six digits count. -/
def setSeconds (r : Reading) (token : List Char) : Option Reading := do
  let whole := token.takeWhile (· != '.')
  let seconds ← Text.naturalOf? whole
  match token.dropWhile (· != '.') with
  | [] => return { r with second := some seconds, microsecond := some 0 }
  | _ :: fraction =>
    let fraction ← Text.numberOf? ((fraction ++ List.replicate (6 - fraction.length) '0').take 6)
    return { r with second := some seconds, microsecond := some fraction }

/-- Sets minutes, and seconds from their fraction. -/
def setMinutes (r : Reading) (a : Amount) : Except DateFault Reading := do
  return { r with minute := some a.whole, second := ← a.sixtieths }

/-- Sets the part of the time that a unit names. -/
def setUnit (r : Reading) (token : List Char) (a : Amount) : Nat → Except DateFault Reading
  | 0 => do return { r with hour := some a.whole, minute := (← a.sixtieths).or r.minute }
  | 1 => r.setMinutes a
  | 2 => readable (r.setSeconds token)
  | _ => .ok r

/-- Whether a word may name a time zone: the hour is known, no zone is, and the word is short and in
capitals. -/
def mayBeZone (r : Reading) (needsNoOffset : Bool) (word : String) : Bool :=
  r.hour.isSome && r.zone.isNone && (!needsNoOffset || r.offset.isNone) && word.length ≤ 5 &&
    (word.toList.all Char.isUpper || ["UTC", "GMT", "Z", "z"].contains word)

end Reading

end TermSearch.Calendar
