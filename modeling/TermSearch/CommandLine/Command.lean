import TermSearch.CommandLine.Grammar
import TermSearch.Text.Integer

/-! The commands of the search program and how they are written. Terms that look like options which are
not understood stay terms, so that an excluded term needs no special care. -/
namespace TermSearch.CommandLine

/-- What a command is called. -/
inductive CommandName
  | compile | load | search | routes
  deriving DecidableEq, Repr

/-- The word for a command. -/
def CommandName.text : CommandName → String
  | compile => "compile"
  | load => "load"
  | search => "search"
  | routes => "routes"

/-- The command of a word. -/
def CommandName.ofText? (word : String) : Option CommandName :=
  [compile, load, search, routes].find? fun name => name.text = word

@[simp] theorem CommandName.ofText?_text (name : CommandName) : ofText? name.text = some name := by
  cases name <;> decide +kernel

/-- A command with what it was given. -/
inductive Command
  | help
  | compile (terms types : List String) (asJson : Bool)
  | load (path : String)
  | search (terms types : List String) (offset : Int)
  | routes (query : Option String) (types : List String) (request : Option String)
  deriving DecidableEq, Repr

def helpOption : OptionSpec := { word := "help", takesValue := false }

def typeOption : OptionSpec := { word := "type", letter := some 't' }

/-- What a command understands. -/
def CommandName.grammar : CommandName → Grammar
  | compile => {
      options := [helpOption, typeOption, { word := "json", takesValue := false }]
      keepsUnknown := true }
  | load => { options := [helpOption] }
  | search => { options := [helpOption, typeOption, { word := "offset" }], keepsUnknown := true }
  | routes => {
      options := [helpOption, typeOption, { word := "query", letter := some 'q' },
        { word := "request", letter := some 'r' }] }

/-- The number of hits to skip: no less than zero. -/
def offsetOf (text : Option String) : Except UsageError Int :=
  match text with
  | none => .ok 0
  | some s =>
    match Text.integerOf? s with
    | some n => if 0 ≤ n then .ok n else .error (.badOffset s)
    | none => .error (.badOffset s)

/-- The command of a name and its arguments. -/
def Command.ofArguments (name : CommandName) (arguments : List String) :
    Except UsageError Command := do
  let p ← name.grammar.parse arguments
  if p.has helpOption.word then return .help
  let types := p.values typeOption.word
  match name with
  | .compile => return .compile p.arguments types (p.has "json")
  | .load =>
    match p.arguments with
    | [] => throw .missingArgument
    | [path] => return .load path
    | _ => throw .extraArgument
  | .search => return .search p.arguments types (← offsetOf (p.value? "offset"))
  | .routes =>
    if p.arguments.isEmpty then return .routes (p.value? "query") types (p.value? "request")
    else throw .extraArgument

/-- A call of the program: its configuration files, and a command with its arguments. -/
structure Call where
  config : String
  defaults : String
  name : CommandName
  arguments : List String
  deriving DecidableEq, Repr

/-- The configuration file unless another one is named. -/
def defaultConfig : String := "config/default.yml"

def configOption : OptionSpec := { word := "config" }

def defaultsOption : OptionSpec := { word := "defaults" }

/-- What the program understands in front of a command. -/
def programGrammar : Grammar where
  options := [helpOption, configOption, defaultsOption]
  mixed := false

/-- The call of a command line; help is no call. -/
def Call.ofArguments (arguments : List String) : Except UsageError (Option Call) := do
  let p ← programGrammar.parse arguments
  if p.has helpOption.word then return none
  match p.arguments with
  | [] => throw .missingCommand
  | word :: rest =>
    match CommandName.ofText? word with
    | none => throw (.unknownCommand word)
    | some name =>
      return some {
        config := (p.value? configOption.word).getD defaultConfig
        defaults := (p.value? defaultsOption.word).getD defaultConfig
        name := name
        arguments := rest }

example : (Command.ofArguments .compile ["-it's", "a", "--", "-t"]).toOption =
    some (.compile ["-i", "a", "-t"] ["'s"] false) := by decide +kernel

end TermSearch.CommandLine
