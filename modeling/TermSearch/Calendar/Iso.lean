import TermSearch.Calendar.CivilTime

/-! Times as text in the international form `2024-03-01T10:00:00+09:00`. The fraction is written only
where it is not zero, the offset only where it is known. -/
namespace TermSearch.Calendar

/-- A number with zeros in front up to a width. -/
def padded (width n : Nat) : String :=
  let digits := toString n
  String.ofList (List.replicate (width - digits.length) '0') ++ digits

namespace CivilTime

/-- An offset in microseconds. Seconds are written only where there are some, and so are their fractions. -/
def offsetText (us : Int) : String :=
  let size := us.natAbs / 1000000
  let fraction := us.natAbs % 1000000
  let tail := if fraction = 0 then "" else "." ++ padded 6 fraction
  (if us < 0 then "-" else "+") ++ padded 2 (size / 3600) ++ ":" ++ padded 2 (size % 3600 / 60) ++
    (if size % 60 = 0 ∧ fraction = 0 then "" else ":" ++ padded 2 (size % 60) ++ tail)

def isoText (t : CivilTime) : String :=
  padded 4 t.year ++ "-" ++ padded 2 t.month ++ "-" ++ padded 2 t.day ++ "T" ++
    padded 2 t.hour ++ ":" ++ padded 2 t.minute ++ ":" ++ padded 2 t.second ++
    (if t.microsecond = 0 then "" else "." ++ padded 6 t.microsecond) ++
    (match t.offset with
      | some us => offsetText us
      | none => "")

/-- The date of a time; the year has no zeros in front. -/
def dateText (t : CivilTime) : String :=
  toString t.year ++ "-" ++ padded 2 t.month ++ "-" ++ padded 2 t.day

/-- A number of exactly the given count of digits, and what follows. -/
def fixedDigits? (count : Nat) (s : List Char) : Option (Nat × List Char) :=
  let digits := s.take count
  if digits.length = count ∧ digits.all Char.isDigit then
    some (digits.foldl (fun n d => n * 10 + (d.toNat - 48)) 0, s.drop count)
  else none

/-- A number behind a given character. -/
def after? (mark : Char) (count : Nat) : List Char → Option (Nat × List Char)
  | c :: rest => if c = mark then fixedDigits? count rest else none
  | [] => none

/-- The fraction of a second in microseconds; digits after the sixth one are dropped. -/
def fraction? : List Char → Option (Nat × List Char)
  | '.' :: rest =>
    let digits := (rest.takeWhile Char.isDigit).take 6
    if digits.isEmpty then none
    else some (
      digits.foldl (fun n d => n * 10 + (d.toNat - 48)) 0 * Nat.pow 10 (6 - digits.length),
      rest.dropWhile Char.isDigit)
  | _ => none

/-- An offset at the end of a time. -/
def offset? : List Char → Option (Option Int)
  | [] => some none
  | sign :: rest => do
    let (hours, rest) ← fixedDigits? 2 rest
    let (minutes, rest) ← after? ':' 2 rest
    let (seconds, rest) := (after? ':' 2 rest).getD (0, rest)
    let (fraction, rest) := (fraction? rest).getD (0, rest)
    let size : Int := ((hours * 3600 + minutes * 60 + seconds) * 1000000 + fraction : Nat)
    if !rest.isEmpty then none
    else if sign = '+' then some (some size)
    else if sign = '-' then some (some (-size))
    else none

/-- The time that a text in the international form stands for. -/
def ofIso? (text : String) : Option CivilTime := do
  let (year, rest) ← fixedDigits? 4 text.toList
  let (month, rest) ← after? '-' 2 rest
  let (day, rest) ← after? '-' 2 rest
  let (hour, rest) ← after? 'T' 2 rest
  let (minute, rest) ← after? ':' 2 rest
  let (second, rest) ← after? ':' 2 rest
  let (microsecond, rest) := (fraction? rest).getD (0, rest)
  let offset ← offset? rest
  let t : CivilTime := ⟨year, month, day, hour, minute, second, microsecond, offset⟩
  if t.isValid then some t else none

example : (ofIso? "2024-03-01T23:30:00-05:30:00.5").map isoText = some "2024-03-01T23:30:00-05:30:00.500000" := by
  decide +kernel
example : (ofIso? "2024-03-01T23:30:00.25").map (·.microsecond) = some 250000 := by decide +kernel

end CivilTime

end TermSearch.Calendar
