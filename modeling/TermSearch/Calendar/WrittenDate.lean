import TermSearch.Calendar.DateReader

/-! Dates as people write them: `2024-03-01T10:00:00+09:00`, `20240301`, `3/1/2024`,
`Fri, 1 Mar 2024 10:30 PM GMT` and the like. A month stands before a day unless it cannot be one. Parts
that are missing come from a given day. -/
namespace TermSearch.Calendar

structure Day where
  year : Nat
  month : Nat
  day : Nat
  deriving DecidableEq, Repr, Inhabited

/-- The year, month and day among three numbers of which at least two have a known role. -/
def byRoles? (r : Reading) : Option (Option Nat × Option Nat × Option Nat) :=
  let known := r.parts.countP fun p => p.role.isSome
  let role (x : Role) : Option Nat := (r.valueOf? x).or ((r.parts.find? fun p => p.role == none).map
    DatePart.value)
  if known = r.parts.length ∧ 0 < known then
    some (r.valueOf? .year, r.valueOf? .month, r.valueOf? .day)
  else if r.parts.length = 3 ∧ known = 2 then some (role .year, role .month, role .day)
  else none

/-- The year, month and day among the numbers of a date. -/
def resolveParts (r : Reading) : Option (Option Nat × Option Nat × Option Nat) :=
  match byRoles? r with
  | some found => some found
  | none =>
    let month := r.placeOf? .month
    match r.parts.map DatePart.value with
    | [] => some (none, none, none)
    | [a] =>
      if month.isSome then some (none, some a, none)
      else if 31 < a then some (some a, none, none) else some (none, none, some a)
    | [a, b] =>
      match month with
      | some place =>
        let (m, other) := if place = 0 then (a, b) else (b, a)
        if 31 < other then some (some other, some m, none) else some (none, some m, some other)
      | none =>
        if 31 < a then some (some a, some b, none)
        else if 31 < b then some (some b, some a, none)
        else some (none, some a, some b)
    | [a, b, c] =>
      match month with
      | some 0 => if 31 < b then some (some b, some a, some c) else some (some c, some a, some b)
      | some 1 => if 31 < a then some (some a, some b, some c) else some (some c, some b, some a)
      | some _ => if 31 < b then some (some b, some c, some a) else some (some a, some c, some b)
      | none =>
        if 31 < a ∨ r.placeOf? .year = some 0 then some (some a, some b, some c)
        else if 12 < a then some (some c, some b, some a)
        else some (some c, some a, some b)
    | _ => none

/-- The offset of a reading in seconds, where one is known. Other zone names than those of universal
time tell nothing. -/
def Reading.offset? (r : Reading) : Option Int :=
  match r.zone with
  | some zone => if isUniversal zone then some 0 else r.offset
  | none => r.offset

def Reading.isBlank (r : Reading) : Bool :=
  r.parts.isEmpty && r.weekday.isNone && r.hour.isNone && r.minute.isNone && r.second.isNone &&
    r.microsecond.isNone && r.zone.isNone && r.offset.isNone

/-- The first day from a given one on that has a weekday, counted from Monday, if the calendar reaches it. -/
def nextWeekday? (t : CivilTime) (weekday : Nat) : Option CivilTime :=
  let n := dayNumber t.year t.month t.day
  let (year, month, day) := dateOfDay ((n + (7 + weekday - n % 7) % 7 : Nat) : Int)
  let found := { t with year := year.toNat, month := month, day := day }
  if found.isValid then some found else none

def maxOffsetDays : Nat := 999999999

/-- Whether an offset in seconds is a span of time that can be reckoned with. -/
def isSpan (offset : Int) : Bool := (offset / 86400).natAbs ≤ maxOffsetDays

/-- The time that a reading stands for, with missing parts of the date from a given day. -/
def Reading.toTime? (today : Day) (r : Reading) : Option CivilTime := do
  let (year, month, day) ← resolveParts r
  let year := year.map fun y => if r.fullYear then y else nearYear today.year y
  let fullYear := year.getD today.year
  let fullMonth := month.getD today.month
  let t : CivilTime := {
    year := fullYear
    month := fullMonth
    day := day.getD (min today.day (daysInMonth fullYear fullMonth))
    hour := r.hour.getD 0
    minute := r.minute.getD 0
    second := r.second.getD 0
    microsecond := r.microsecond.getD 0
    offset := r.offset?.map (· * 1000000) }
  if t.isValid && r.offset?.all isSpan then
    match r.weekday, day with
    | some weekday, none => nextWeekday? t weekday
    | _, _ => return t
  else none

/-- The time that a written date stands for. -/
def readDate (today : Day) (text : String) : Except DateFault CivilTime := do
  let r ← readTokens today.year {} [] (dateTokens text)
  readable (if r.isBlank then none else r.toTime? today)

example : (readDate ⟨2024, 1, 1⟩ "Fri, 1 Mar 2024 10:30 PM").toOption =
    some ⟨2024, 3, 1, 22, 30, 0, 0, none⟩ := by decide +kernel

end TermSearch.Calendar
