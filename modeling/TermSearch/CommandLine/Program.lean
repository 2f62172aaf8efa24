import TermSearch.CommandLine.Clock
import TermSearch.CommandLine.Command
import TermSearch.CommandLine.Loading
import TermSearch.Document.Yaml.Reader
import TermSearch.Report.Plan
import TermSearch.Report.Results
import TermSearch.Settings.Layering
import TermSearch.Text.ControlSequence

/-! Runs of the search program. The configuration is read before the command is looked at closely, and a
fault in it ends the run; a fault of the command itself is logged and aborts it. -/
namespace TermSearch.CommandLine

open File (Path)
open Settings (AllSettings)

/-- Why a command cannot start. -/
inductive StartError
  | path (e : PathError)
  | source (e : Settings.SourceError Document.Yaml.Error)
  deriving DecidableEq, Repr

def StartError.message : StartError → String
  | path e => e.message
  | source e => e.message Document.Yaml.Error.message

inductive Ending
  | done
  | aborted
  | misused (e : UsageError)
  | failed (e : StartError)
  deriving DecidableEq, Repr

/-- The exit code of an ending. -/
def Ending.exitCode : Ending → Nat
  | done => 0
  | aborted => 1
  | misused _ => 2
  | failed _ => 1

/-- What a run shows: lines of output, log entries with the level of the console, the files with results
and the log file. -/
structure Outcome where
  ending : Ending
  output : List String := []
  entries : List Log.Entry := []
  consoleLevel : Int := Log.infoLevel
  files : List Report.OutputFile := []
  logFile : Option Report.OutputFile := none

namespace Outcome

/-- The text on standard output, which is taken not to be a terminal. -/
def outputText (o : Outcome) : String :=
  String.join (o.output.map fun line => Text.withoutControls line ++ "\n")

/-- The text on standard error, with a stamp in front of log entries. -/
def errorText (stamp : String) (o : Outcome) : String :=
  Log.textOf stamp (Log.shown o.consoleLevel o.entries) ++
    (if o.ending = .aborted then "Aborted!\n" else "")

end Outcome

/-- What a command does: its output, its log entries, the files it writes, the workspace it leaves, and
why it fails, if it does. -/
structure Effect where
  workspace : Workspace
  output : List String := []
  entries : List Log.Entry := []
  files : List Report.OutputFile := []
  failure : Option String := none

def readLayer (w : Workspace) (p : Path) : Except StartError Settings.Entries := do
  let text ← (w.readText p).mapError .path
  (Settings.entriesOfFile Document.Yaml.read text).mapError .source

/-- The settings for a call: one layer if both files are the same, and the configuration over the
defaults otherwise. -/
def settingsOf (w : Workspace) (call : Call) : Except StartError AllSettings := do
  let defaults := Path.ofText call.defaults
  let config := Path.ofText call.config
  let base ← readLayer w defaults
  let upper ← if config = defaults then pure none else some <$> readLayer w config
  (Settings.ofLayers base upper).mapError .source

inductive OpenError
  | path (e : PathError)
  | notDatabase
  | noFile
  deriving DecidableEq, Repr

def OpenError.message : OpenError → String
  | path e => e.message
  | notDatabase => "file is not a database"
  | noFile => "unable to open database file"

/-- The workspace with the tables of a connection in it; what is in memory only is not kept. -/
def keep (w : Workspace) (p : Path) (c : Store.Connection) : Workspace :=
  if p.text = Store.memoryPath then w else w.putDatabase p c.tables

/-- The tables of the database at a path, which are empty if it is not there. -/
def tablesAt (w : Workspace) (p : Path) : Except OpenError Store.Tables :=
  match w.locate p with
  | .error .holdsNul => .error (.path ⟨.holdsNul, p⟩)
  | .error _ => .error .noFile
  | .ok l =>
    match w.databases.lookup l with
    | some tables => .ok tables
    | none =>
      if w.isDirectory l then .error .noFile
      else if (w.texts.lookup l).any fun text => !text.isEmpty then .error .notDatabase
      else .ok .empty

/-- Opens the database at a path; one that is not there is made, with the directories on its way. -/
def openDatabase (w : Workspace) (p : Path) : Except OpenError (Workspace × Store.Connection) := do
  if p.text = Store.memoryPath then return (w, .openWith p.text .empty)
  let w ← (w.makeDirectories p.parent).mapError .path
  let c := Store.Connection.openWith p.text (← tablesAt w p)
  return (keep w p c, c)

/-- What is logged when a database is opened. -/
def openEntries (p : Path) : List Log.Entry :=
  [Log.info ("Record database: " ++ p.text), Log.debug ("Initializing RecordStore: " ++ p.text)]

/-- Shows the compiled form of a query. -/
def runCompile (w : Workspace) (s : AllSettings) (terms types : List String) (asJson : Bool) :
    Effect :=
  match Service.planOf s.search terms with
  | .error e => { workspace := w, failure := some e.message }
  | .ok plan =>
    let entries := Service.planEntries s.search terms plan
    let lines := do
      let statement ←
        if s.output.showSql then some <$> Service.statementOf s.search plan types none (.int 0)
        else pure none
      if asJson then return [← Report.planJson plan statement]
      else Report.planLines plan statement
    match lines with
    | .ok output => { workspace := w, output := output, entries := entries }
    | .error e => { workspace := w, entries := entries, failure := some e.message }

def runLoad (w : Workspace) (clock : Clock) (s : AllSettings) (path : String) : Effect :=
  let database := Path.ofText s.databasePath
  let p := Path.ofText path
  match openDatabase w database with
  | .error e => { workspace := w, failure := some e.message }
  | .ok (w, c) =>
    let report := load (dateReaderOf clock.today) c p ((w.readText p).map String.toUTF8)
    { workspace := keep w database report.connection
      entries := openEntries database ++ report.entries
      failure :=
        match report.result with
        | .ok _ => none
        | .error e => some e.message }

def failureMessage : Service.Failure Store.Error → String
  | .fault e => e.message
  | .noStore => Service.noStoreMessage
  | .store e => e.message

/-- The report of a search that starts. -/
def startEntry (terms types : List String) (offset : Int) : Log.Entry :=
  Log.debug ("Running search tokens=" ++ Text.quotedList terms ++ " types=" ++
    Text.quotedList types ++ " offset=" ++ toString offset)

/-- Saves the file with results in its directory. -/
def saveResults (w : Workspace) (s : Settings.OutputSettings) (file : Report.OutputFile) :
    Except PathError Workspace := do
  (← w.makeDirectories (Report.fileDirectory s)).writeText file.path file.text

def runSearch (w : Workspace) (clock : Clock) (s : AllSettings) (terms types : List String)
    (offset : Int) : Effect :=
  let database := Path.ofText s.databasePath
  match Report.checkFormats s.output with
  | .error e => { workspace := w, failure := some e.message }
  | .ok () =>
    match openDatabase w database with
    | .error e => { workspace := w, failure := some e.message }
    | .ok (w, c) =>
      let outcome := Service.search s.search (some c.execute) terms types none (.int offset)
      let searched : Effect := {
        workspace := w
        entries := openEntries database ++ startEntry terms types offset :: outcome.entries }
      match outcome.result with
      | .error e => { searched with failure := some (failureMessage e) }
      | .ok hits =>
        let results : List Report.SearchResult := [⟨terms, hits.map .ofHit⟩]
        let entries := searched.entries ++ Report.entriesOf s.output results
        match Report.fileOf? s.output CommandName.search.text clock.resultStamp results with
        | none => { searched with entries := entries }
        | some file =>
          match saveResults w s.output file with
          | .error e => { searched with entries := entries, failure := some e.message }
          | .ok w => {
              workspace := w
              entries := entries ++ [Report.savedEntry file]
              files := [file] }

def runRoutes (w : Workspace) (s : AllSettings) (query : Option String) (types : List String)
    (request : Option String) : Effect :=
  { workspace := w
    output := Report.routeLines s.pages s.search.blankQuery
      (Report.RouteQuestion.of request query types) }

/-- The lines that explain how the program is called. -/
def helpLines : List String := [
  "Usage: [--config FILE] [--defaults FILE] COMMAND [ARGUMENTS]",
  "",
  "  compile [-t TYPE] [--json] TERMS    show the predicate and the statement of a query",
  "  load PATH                           save the records of a JSON file",
  "  search [-t TYPE] [--offset N] TERMS search the saved records",
  "  routes [-q QUERY] [-t TYPE] [-r REQUEST]  show routing rules, a path or a request"]

/-- Runs a command. -/
def runCommand (w : Workspace) (clock : Clock) (s : AllSettings) : Command → Effect
  | .help => { workspace := w, output := helpLines }
  | .compile terms types asJson => runCompile w s terms types asJson
  | .load path => runLoad w clock s path
  | .search terms types offset => runSearch w clock s terms types offset
  | .routes query types request => runRoutes w s query types request

/-- The word with which the report of a failed command starts. -/
def CommandName.failureWord : CommandName → String
  | compile => "Compile"
  | load => "Load"
  | search => "Search"
  | routes => "Routes"

/-- What a command that has run shows. -/
def Effect.outcome (e : Effect) (name : CommandName) (consoleLevel : Int) : Outcome :=
  match e.failure with
  | none => {
      ending := .done
      output := e.output
      entries := e.entries
      consoleLevel := consoleLevel
      files := e.files }
  | some message => {
      ending := .aborted
      output := e.output
      entries := e.entries ++ [Log.error (name.failureWord ++ " failed: " ++ message)]
      consoleLevel := consoleLevel
      files := e.files }

/-- The log file of a command, where one is written. -/
def logFile? (clock : Clock) (s : AllSettings) (name : CommandName) : Option Path :=
  if s.log.toFile then some (Log.filePath s.log.directory name.text clock.logStamp) else none

/-- Whether the last name of a path is written as a file: no slash and no point stands behind it. -/
def endsInName (path : String) : Bool :=
  match (Text.splitWhen (· == '/') path.toList).getLast? with
  | some last => !last.isEmpty && last != ['.']
  | none => false

/-- Refuses an option that names a directory instead of a file. -/
def checkOption (w : Workspace) (path : String) : Except UsageError Unit :=
  if !path.isEmpty && w.leadsToDirectory (Path.ofText path) then .error (.isDirectory path)
  else .ok ()

/-- Refuses a path that holds a NUL character. -/
def checkPath (path : String) : Except Ending Unit :=
  if holdsNul path then .error (.failed (.path ⟨.holdsNul, .ofText path⟩)) else .ok ()

/-- Refuses a command whose file is not there. -/
def checkCommand (w : Workspace) : Command → Except Ending Unit
  | .load path => do
    checkPath path
    if !(endsInName path && w.leadsToFile (Path.ofText path)) then throw (.misused (.noFile path))
  | _ => .ok ()

def runCall (w : Workspace) (clock : Clock) (call : Call) : Outcome × Workspace :=
  let ends (ending : Ending) : Outcome × Workspace := ({ ending := ending }, w)
  match (do checkOption w call.config; checkOption w call.defaults) with
  | .error e => ends (.misused e)
  | .ok () =>
    match settingsOf w call with
    | .error e => ends (.failed e)
    | .ok s =>
      match (do
          let command ← (Command.ofArguments call.name call.arguments).mapError Ending.misused
          checkCommand w command
          return command) with
      | .error ending => ends ending
      | .ok command =>
        let logPath := logFile? clock s call.name
        match (logPath.map Path.parent).toList.foldlM Workspace.makeDirectories w with
        | .error e => ends (.failed (.path e))
        | .ok w =>
          let level := (Log.levelOf s.log.level).toOption.getD Log.infoLevel
          let effect := runCommand w clock s command
          let outcome := effect.outcome call.name level
          let logFile := logPath.map fun p =>
            { path := p, text := Log.textOf clock.lineStamp (Log.filed level outcome.entries) }
          ({ outcome with logFile := logFile },
            logFile.toList.foldl (fun w f => w.putText f.path f.text) effect.workspace)

/-- Refuses options with paths that hold NUL characters, which comes before a look at the command. -/
def checkOptionPaths (arguments : List String) : Except Ending Unit := do
  let p ← (programGrammar.parse arguments).mapError Ending.misused
  if !p.has helpOption.word then
    ((p.value? configOption.word).toList ++ (p.value? defaultsOption.word).toList).forM checkPath

def run (w : Workspace) (clock : Clock) (arguments : List String) : Outcome × Workspace :=
  match (do
      checkOptionPaths arguments
      (Call.ofArguments arguments).mapError Ending.misused) with
  | .error ending => ({ ending := ending }, w)
  | .ok none => ({ ending := .done, output := helpLines }, w)
  | .ok (some call) => runCall w clock call

/-- The paths of the texts that a run may read. -/
def textPaths (arguments : List String) : List Path :=
  match Call.ofArguments arguments with
  | .ok (some call) =>
    let loaded := match Command.ofArguments call.name call.arguments with
      | .ok (.load path) => [path]
      | _ => []
    (call.config :: call.defaults :: loaded).map Path.ofText
  | _ => []

/-- The path of the database that a run may open. -/
def databasePath? (w : Workspace) (arguments : List String) : Option Path :=
  match Call.ofArguments arguments with
  | .ok (some call) => (settingsOf w call).toOption.map fun s => Path.ofText s.databasePath
  | _ => none

/-- The tables of the database at a path after a run. -/
def tablesAfter? (w : Workspace) (p : Path) : Option Store.Tables :=
  w.databases.lookup (Workspace.placeOf p)

end TermSearch.CommandLine
