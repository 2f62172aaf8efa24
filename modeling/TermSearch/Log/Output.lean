import TermSearch.Calendar.Iso
import TermSearch.File.Path
import TermSearch.Text.Case
import TermSearch.Text.Quoted

/-! Log entries, each a numeric level and a message, and where they go. The console shows entries from a chosen level on; a log file, if there is one,
takes entries from the debug level on. Without a chosen level nothing below a warning is logged at all. -/
namespace TermSearch.Log

/-- The levels that have a name, as the numbers they stand for. -/
def debugLevel : Int := 10
def infoLevel : Int := 20
def warningLevel : Int := 30
def errorLevel : Int := 40
def criticalLevel : Int := 50

structure Entry where
  level : Int
  message : String
  deriving DecidableEq, Repr, Inhabited

/-- A message for the search for faults. -/
def debug (message : String) : Entry := ⟨debugLevel, message⟩

def info (message : String) : Entry := ⟨infoLevel, message⟩

def error (message : String) : Entry := ⟨errorLevel, message⟩

def levelName (level : Int) : String :=
  if level = 50 then "CRITICAL"
  else if level = 40 then "ERROR"
  else if level = 30 then "WARNING"
  else if level = 20 then "INFO"
  else if level = 10 then "DEBUG"
  else if level = 0 then "NOTSET"
  else "Level " ++ toString level

/-- The tag of a level: four letters. -/
def levelTag (level : Int) : String :=
  if level = 40 ∨ level = 50 then "ERRO"
  else if level = 30 then "WARN"
  else if level = 20 then "INFO"
  else if level = 10 then "DEBG"
  else String.ofList ((levelName level).toList.take 4)

/-- An entry as a line, without the time in front of it. -/
def Entry.text (e : Entry) : String := "[" ++ levelTag e.level ++ "] " ++ e.message

/-- A word that is reserved and cannot name a level: the one for the layout of a line, or the one for
the styles of layouts. -/
inductive ReservedLevel
  | layout | styles
  deriving DecidableEq, Repr

namespace ReservedLevel

/-- The reserved word. -/
def word : ReservedLevel → String
  | layout => "BASIC_FORMAT"
  | styles => "_STYLES"

def layoutText : String := "%(levelname)s:%(name)s:%(message)s"

/-- The styles of layouts: a mark, the name of the style, and the layout in it. -/
def styleTable : List (String × String × String) := [
  ("%", "PercentStyle", layoutText),
  ("\x7b", "StrFormatStyle", "\x7blevelname\x7d:\x7bname\x7d:\x7bmessage\x7d"),
  ("$", "StringTemplateStyle", "$\x7blevelname\x7d:$\x7bname\x7d:$\x7bmessage\x7d")]

def styleText : String :=
  "\x7b" ++ ", ".intercalate (styleTable.map fun (mark, name, line) =>
    Text.quoted mark ++ ": (<class 'logging." ++ name ++ "'>, " ++ Text.quoted line ++ ")") ++ "\x7d"

def message : ReservedLevel → String
  | layout => "Unknown level: " ++ Text.quoted layoutText
  | styles => "Level not an integer or a valid string: " ++ styleText

end ReservedLevel

/-- The level of a name, in any case; a name that is empty or unknown stands for progress messages. -/
def levelOf (name : String) : Except ReservedLevel Int :=
  match Text.upper name with
  | "DEBUG" => .ok debugLevel
  | "WARNING" => .ok warningLevel
  | "WARN" => .ok warningLevel
  | "ERROR" => .ok errorLevel
  | "CRITICAL" => .ok criticalLevel
  | "FATAL" => .ok criticalLevel
  | "NOTSET" => .ok 0
  | upper =>
    match [ReservedLevel.layout, .styles].find? fun r => r.word == upper with
    | some reserved => .error reserved
    | none => .ok infoLevel

/-- The level from which entries are logged at all, given the level of the console. -/
def threshold (console : Int) : Int := if console = 0 then warningLevel else min debugLevel console

def logged (console : Int) (entries : List Entry) : List Entry :=
  entries.filter fun e => threshold console ≤ e.level

def shown (console : Int) (entries : List Entry) : List Entry :=
  (logged console entries).filter fun e => console ≤ e.level

def filed (console : Int) (entries : List Entry) : List Entry :=
  (logged console entries).filter fun e => debugLevel ≤ e.level

theorem shown_sublist (console : Int) (entries : List Entry) :
    (shown console entries).Sublist entries :=
  List.filter_sublist.trans List.filter_sublist

/-- Entries as text, each on a line behind a stamp. -/
def textOf (stamp : String) (entries : List Entry) : String :=
  String.join (entries.map fun e => stamp ++ e.text ++ "\n")

/-- The directory of log files unless another one is chosen. -/
def defaultDirectory : String := "log"

/-- The path of the log file of an action. -/
def filePath (directory action stamp : String) : File.Path :=
  ((File.Path.ofText (if directory.isEmpty then defaultDirectory else directory)).child action).child
    (action ++ "_" ++ stamp ++ ".log")

/-- The stamp of a time in the name of a log file: month, day and time of day. -/
def stampOf (t : Calendar.CivilTime) : String :=
  String.join ([t.month, t.day, t.hour, t.minute, t.second].map (Calendar.padded 2))

end TermSearch.Log
