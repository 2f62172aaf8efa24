/-! The words of written dates: names of months, weekdays and units of time, the marks of the halves of
a day, names of universal time and words that say nothing. Case does not count. All are of the letters A
to Z, and no letter beyond them has one of the letters that occur here as its lower case. -/
namespace TermSearch.Calendar

/-- Words that may stand between the parts of a date. -/
def fillers : List String :=
  [" ", ".", ",", ";", "-", "/", "\x27", "at", "on", "and", "ad", "m", "t", "of", "st", "nd", "rd", "th"]

/-- The names of the days of a week from Monday on. -/
def weekdayNames : List (List String) :=
  [["mon", "monday"], ["tue", "tuesday"], ["wed", "wednesday"], ["thu", "thursday"],
   ["fri", "friday"], ["sat", "saturday"], ["sun", "sunday"]]

def monthNames : List (List String) :=
  [["jan", "january"], ["feb", "february"], ["mar", "march"], ["apr", "april"], ["may"],
   ["jun", "june"], ["jul", "july"], ["aug", "august"], ["sep", "sept", "september"],
   ["oct", "october"], ["nov", "november"], ["dec", "december"]]

def clockNames : List (List String) :=
  [["h", "hour", "hours"], ["m", "minute", "minutes"], ["s", "second", "seconds"]]

/-- The marks of the halves of a day. -/
def halfNames : List (List String) := [["am", "a"], ["pm", "p"]]

/-- The names of universal time. -/
def universalNames : List String := ["utc", "gmt", "z"]

/-- Words that are numbers to a reader of numbers, but no part of a date. -/
def numberWords : List String := ["nan", "inf", "infinity"]

/-- A word with the letters A to Z in lower case. -/
def lowered (word : String) : String := word.toLower

/-- The place of a word among groups of names. -/
def placeIn? (groups : List (List String)) (word : String) : Option Nat :=
  groups.findIdx? fun names => names.contains (lowered word)

def isFiller (word : String) : Bool := fillers.contains (lowered word)

/-- The weekday that a word names, counted from Monday. -/
def weekdayOf? (word : String) : Option Nat := placeIn? weekdayNames word

def monthOf? (word : String) : Option Nat := (placeIn? monthNames word).map (· + 1)

/-- The unit of time that a word names: hours, minutes or seconds. -/
def clockUnitOf? (word : String) : Option Nat := placeIn? clockNames word

/-- The half of the day that a word names. -/
def halfOf? (word : String) : Option Nat := placeIn? halfNames word

/-- Whether a word names universal time. -/
def isUniversal (word : String) : Bool := universalNames.contains (lowered word)

example : monthOf? "SEPT" = some 9 := by decide +kernel
example : weekdayOf? "fri" = some 4 := by decide +kernel
example : weekdayOf? "fr" = none := by decide +kernel

end TermSearch.Calendar
