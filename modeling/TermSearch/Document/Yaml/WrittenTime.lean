import TermSearch.Calendar.CivilTime
import TermSearch.Document.Yaml.Error
import TermSearch.Document.Yaml.Place

/-! Points in time as scalars write them: a day alone, or a day with a time of day and an offset. Only
their form and their existence matter here; the value keeps them as they are written. -/
namespace TermSearch.Document.Yaml

open Calendar (daysInMonth)

/-- A day that exists or not. -/
structure WrittenDay where
  year : Nat
  month : Nat
  day : Nat
  deriving DecidableEq, Repr

/-- A time of day that exists or not, with an offset in minutes where one is written. -/
structure WrittenClock where
  hour : Nat
  minute : Nat
  second : Nat
  offset : Option Int
  deriving DecidableEq, Repr

/-- A point in time. A day is in full where its month and its day have two digits. -/
structure WrittenTime where
  day : WrittenDay
  isFull : Bool
  clock : Option WrittenClock
  deriving DecidableEq, Repr

/-- The number of the next digits, at least and at most so many, and what follows them. -/
def takeNumber (least most : Nat) (s : List Char) : Option (Nat × List Char) :=
  let digits := (s.take most).takeWhile Char.isDigit
  if least ≤ digits.length then
    some (digits.foldl (fun n d => n * 10 + (d.toNat - 48)) 0, s.drop digits.length)
  else none

/-- What follows a given character. -/
def takeMark (c : Char) : List Char → Option (List Char)
  | d :: rest => if c = d then some rest else none
  | [] => none

/-- The offset at the end of a time in minutes, where one is written. -/
def takeOffset (s : List Char) : Option (Option Int) :=
  match s.dropWhile isBlank with
  | [] => if s.isEmpty then some none else none
  | ['Z'] => some none
  | sign :: rest => do
    if sign ≠ '+' ∧ sign ≠ '-' then none
    let (hours, rest) ← takeNumber 1 2 rest
    let minutes ← match rest with
      | [] => some 0
      | ':' :: rest => do
        let (minutes, rest) ← takeNumber 2 2 rest
        if rest.isEmpty then some minutes else none
      | _ => none
    let size : Int := (hours * 60 + minutes : Nat)
    return some (if sign = '-' then -size else size)

/-- The time of day behind a day. -/
def takeClock (s : List Char) : Option WrittenClock := do
  let (hour, rest) ← takeNumber 1 2 s
  let (minute, rest) ← takeNumber 2 2 (← takeMark ':' rest)
  let (second, rest) ← takeNumber 2 2 (← takeMark ':' rest)
  let rest := if rest.head? = some '.' then (rest.drop 1).dropWhile Char.isDigit else rest
  return ⟨hour, minute, second, ← takeOffset rest⟩

namespace WrittenTime

/-- The point in time that a text writes. -/
def ofText? (s : List Char) : Option WrittenTime := do
  let (year, s) ← takeNumber 4 4 s
  let afterYear ← takeMark '-' s
  let (month, s) ← takeNumber 1 2 afterYear
  let afterMonth ← takeMark '-' s
  let (day, rest) ← takeNumber 1 2 afterMonth
  let day : WrittenDay := ⟨year, month, day⟩
  let isFull := afterYear.length = afterMonth.length + 3 ∧ afterMonth.length = rest.length + 2
  match rest with
  | [] => return ⟨day, isFull, none⟩
  | mark :: rest =>
    let clock ←
      if mark = 'T' ∨ mark = 't' then takeClock rest
      else if isBlank mark then takeClock (rest.dropWhile isBlank)
      else none
    return ⟨day, isFull, some clock⟩

/-- Whether a plain scalar of this form is a point in time without a tag that says so. -/
def isPlain (t : WrittenTime) : Bool := t.isFull || t.clock.isSome

end WrittenTime

/-- Why a day does not exist. -/
def WrittenDay.fault? (d : WrittenDay) : Option String :=
  if d.year = 0 then some "year 0 is out of range"
  else if d.month = 0 ∨ 12 < d.month then some "month must be in 1..12"
  else if d.day = 0 ∨ daysInMonth d.year d.month < d.day then some "day is out of range for month"
  else none

def WrittenClock.fault? (c : WrittenClock) : Option String :=
  if 23 < c.hour then some "hour must be in 0..23"
  else if 59 < c.minute then some "minute must be in 0..59"
  else if 59 < c.second then some "second must be in 0..59"
  else none

/-- A number of minutes in days and seconds. -/
def offsetText (minutes : Int) : String :=
  let days := if minutes / 1440 = 0 then [] else ["days=" ++ toString (minutes / 1440)]
  let seconds := if minutes % 1440 = 0 then [] else ["seconds=" ++ toString (minutes % 1440 * 60)]
  "datetime.timedelta(" ++ ", ".intercalate (days ++ seconds) ++ ")"

/-- Why an offset does not exist. -/
def offsetFault? (minutes : Int) : Option String :=
  if minutes.natAbs < 1440 then none
  else some ("offset must be a timedelta strictly between -timedelta(hours=24) and " ++
    "timedelta(hours=24), not " ++ offsetText minutes ++ ".")

/-- Why a point in time does not exist: because of its offset, its day or its time of day, in this order. -/
def WrittenTime.fault? (t : WrittenTime) : Option String :=
  ((t.clock.bind WrittenClock.offset).bind offsetFault?).or
    (t.day.fault?.or (t.clock.bind WrittenClock.fault?))

example : (WrittenTime.ofText? "2024-02-30".toList).bind WrittenTime.fault? =
    some "day is out of range for month" := by decide +kernel
example : WrittenTime.ofText? "2024-2-3 4:05:06.7 +9".toList =
    some ⟨⟨2024, 2, 3⟩, false, some ⟨4, 5, 6, some 540⟩⟩ := by decide +kernel
example : (WrittenTime.ofText? "2024-2-3".toList).map WrittenTime.isPlain = some false := by
  decide +kernel

end TermSearch.Document.Yaml
