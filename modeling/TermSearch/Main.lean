import Std.Time.DateTime.Timestamp
import TermSearch.CommandLine.Program
import TermSearch.Store.Snapshot

/-! The search program as a command. It reads the files that a run may look at, runs, and writes what the
run leaves behind. -/
namespace TermSearch.Main

open CommandLine (Workspace Clock Outcome)
open File (Path)

/-- What the program takes from the present time, in universal time. -/
def clockNow : IO Clock := do
  let now ← Std.Time.Timestamp.now
  let time := Calendar.CivilTime.ofSeconds? now.toSecondsSinceUnixEpoch.toInt
  return .ofTime (time.toOption.getD ⟨1970, 1, 1, 0, 0, 0, 0, none⟩)

/-- The text of the file at a path, if there is one. -/
def textAt? (p : Path) : IO (Option String) := do
  try return some (← IO.FS.readFile p.text)
  catch _ => return none

def addTextAt (w : Workspace) (p : Path) : IO Workspace := do
  match ← textAt? p with
  | some text => return w.addText p text
  | none => return w

/-- Adds the database at a path; a file that is no database is added as a text. -/
def addDatabaseAt (w : Workspace) (p : Path) : IO Workspace := do
  match ← textAt? p with
  | some text =>
    match Store.Tables.ofSnapshot? text with
    | some tables => return w.putDatabase p tables
    | none => return w.addText p text
  | none => return w

/-- Writes a file and makes the directories on its way. -/
def writeTextAt (p : Path) (text : String) : IO Unit := do
  IO.FS.createDirAll p.parent.text
  IO.FS.writeFile p.text text

/-- Writes what a run leaves behind. -/
def writeOutcome (outcome : Outcome) (database : Option (Path × Store.Tables)) : IO Unit := do
  for (p, tables) in database do
    writeTextAt p tables.snapshot
  for file in outcome.files ++ outcome.logFile.toList do
    writeTextAt file.path file.text

/-- What a run that could not start has to say. -/
def complaint (outcome : Outcome) : String :=
  match outcome.ending with
  | .misused e => "Error: " ++ e.message ++ "\n"
  | .failed e => "Error: " ++ e.message ++ "\n"
  | _ => ""

/-- Runs the program on the texts that were read. -/
def runOn (w : Workspace) (clock : Clock) (arguments : List String) : IO UInt32 := do
  let path := CommandLine.databasePath? w arguments
  let w ← path.toList.foldlM addDatabaseAt w
  let (outcome, after) := CommandLine.run w clock arguments
  writeOutcome outcome (path.bind fun p => (CommandLine.tablesAfter? after p).map fun t => (p, t))
  IO.print outcome.outputText
  IO.eprint (outcome.errorText clock.lineStamp ++ complaint outcome)
  return UInt32.ofNat outcome.ending.exitCode

end TermSearch.Main

def main (arguments : List String) : IO UInt32 := do
  let clock ← TermSearch.Main.clockNow
  let w ← (TermSearch.CommandLine.textPaths arguments).foldlM TermSearch.Main.addTextAt {}
  TermSearch.Main.runOn w clock arguments
