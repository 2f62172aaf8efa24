import TermSearch.Calendar.WrittenDate
import TermSearch.Log.Output
import TermSearch.Record.Import

/-! What a run takes from the time at which it starts: the day, from which incomplete dates are filled, and
the stamps in the names of files and in front of the lines of a log. -/
namespace TermSearch.CommandLine

open Calendar (CivilTime Day padded)

/-- What a run takes from the time at which it starts. -/
structure Clock where
  today : Day
  /-- The stamp in the name of a file with results. -/
  resultStamp : String
  /-- The stamp in the name of a log file. -/
  logStamp : String
  /-- What stands in front of a line of a log. -/
  lineStamp : String
  deriving Repr

/-- The stamp of a time in the name of a file with results: the date and the time of day. -/
def resultStampOf (t : CivilTime) : String :=
  toString t.year ++ padded 2 t.month ++ padded 2 t.day ++ "_" ++
    String.join ([t.hour, t.minute, t.second].map (padded 2))

/-- The stamp of a time in front of a line of a log. -/
def lineStampOf (t : CivilTime) : String :=
  padded 2 t.month ++ "-" ++ padded 2 t.day ++ " " ++
    ":".intercalate ([t.hour, t.minute, t.second].map (padded 2)) ++ " "

/-- What a run takes from a time. -/
def Clock.ofTime (t : CivilTime) : Clock where
  today := ⟨t.year, t.month, t.day⟩
  resultStamp := resultStampOf t
  logStamp := Log.stampOf t
  lineStamp := lineStampOf t

/-- The reader of dates that fills incomplete ones from a day. A half of a surrogate pair is as foreign to a date as the
replacement character. -/
def dateReaderOf (today : Day) : Record.DateReader := fun text =>
  (Calendar.readDate today text.replaced).mapError fun
    | .unreadable => .badValue
    | .tooGreat => .other "[<class 'decimal.DivisionImpossible'>]"

example : lineStampOf ⟨2024, 3, 1, 9, 5, 0, 0, none⟩ = "03-01 09:05:00 " := by decide +kernel
example : resultStampOf ⟨2024, 3, 1, 9, 5, 0, 0, none⟩ = "20240301_090500" := by decide +kernel

end TermSearch.CommandLine
