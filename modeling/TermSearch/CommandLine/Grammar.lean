/-! Options and arguments of a command line. An option is written behind one dash with one letter, or
behind two dashes with a word; letters may stand together, and a value may follow its letter directly or
its word behind an equals sign. A double dash alone ends the options. -/
namespace TermSearch.CommandLine

/-- An option of a command. -/
structure OptionSpec where
  word : String
  letter : Option Char := none
  takesValue : Bool := true
  deriving DecidableEq, Repr

/-- What a command understands. -/
structure Grammar where
  options : List OptionSpec
  /-- Whether options that are not understood become arguments. -/
  keepsUnknown : Bool := false
  /-- Whether options may follow arguments. -/
  mixed : Bool := true
  deriving Repr

/-- A command line that is not understood. -/
inductive UsageError
  | unknownOption (name : String)
  | missingValue (word : String)
  | unwantedValue (word : String)
  | missingCommand
  | unknownCommand (name : String)
  | missingArgument
  | extraArgument
  | badOffset (text : String)
  | noFile (path : String)
  | isDirectory (path : String)
  deriving DecidableEq, Repr

def UsageError.message : UsageError → String
  | unknownOption name => "No such option: " ++ name
  | missingValue word => "Option '--" ++ word ++ "' requires an argument."
  | unwantedValue word => "Option '--" ++ word ++ "' does not take a value."
  | missingCommand => "Missing command."
  | unknownCommand name => "No such command '" ++ name ++ "'."
  | missingArgument => "Missing argument 'PATH'."
  | extraArgument => "Got unexpected extra arguments"
  | badOffset text => "Invalid value for '--offset': '" ++ text ++ "' is not a valid offset."
  | noFile path => "Invalid value for 'PATH': File '" ++ path ++ "' does not exist."
  | isDirectory path => "Invalid value: File '" ++ path ++ "' is a directory."

/-- The options and arguments of a command line in order. An option without a value has none here. -/
structure Parsed where
  options : List (String × Option String) := []
  arguments : List String := []
  deriving DecidableEq, Repr, Inhabited

namespace Parsed

/-- A command line with one more option in front. -/
def addOption (p : Parsed) (word : String) (value : Option String) : Parsed :=
  { p with options := (word, value) :: p.options }

/-- A command line with one more argument in front. -/
def addArgument (p : Parsed) (argument : String) : Parsed :=
  { p with arguments := argument :: p.arguments }

def values (p : Parsed) (word : String) : List String :=
  p.options.filterMap fun o => if o.1 = word then o.2 else none

/-- The last value of an option. -/
def value? (p : Parsed) (word : String) : Option String := (p.values word).getLast?

def has (p : Parsed) (word : String) : Bool := p.options.any fun o => o.1 = word

end Parsed

/-- A word behind two dashes, and the value behind an equals sign, if there is one. -/
def cutWord (argument : String) : String × Option String :=
  let s := argument.toList
  let name := String.ofList (s.takeWhile (· != '='))
  match s.dropWhile (· != '=') with
  | [] => (name, none)
  | _ :: value => (name, some (String.ofList value))

/-- What letters behind one dash say: the options among them, those that are not understood, and the
option whose value has to be the next argument. -/
structure Letters where
  options : List (String × Option String) := []
  unknown : List Char := []
  pending : Option OptionSpec := none

namespace Grammar

/-- The option of a word with its dashes. -/
def ofWord? (g : Grammar) (name : String) : Option OptionSpec :=
  g.options.find? fun o => "--" ++ o.word = name

/-- The option of a letter. -/
def ofLetter? (g : Grammar) (c : Char) : Option OptionSpec :=
  g.options.find? fun o => o.letter = some c

/-- Reads letters behind one dash. What follows the letter of an option with a value is that value. -/
def letters (g : Grammar) : List Char → Except UsageError Letters
  | [] => .ok {}
  | c :: rest =>
    match g.ofLetter? c with
    | none => do
      if !g.keepsUnknown then throw (.unknownOption (String.ofList ['-', c]))
      let more ← g.letters rest
      return { more with unknown := c :: more.unknown }
    | some o =>
      if o.takesValue then
        if rest.isEmpty then .ok { pending := some o }
        else .ok { options := [(o.word, some (String.ofList rest))] }
      else do
        let more ← g.letters rest
        return { more with options := (o.word, none) :: more.options }

/-- A command line with what some letters say in front. Letters that are not understood are an argument
of their own. -/
def addLetters (found : Letters) (value : Option String) (p : Parsed) : Parsed :=
  let pending := (found.pending.toList.map fun o => (o.word, value))
  let p := { p with options := found.options ++ pending ++ p.options }
  if found.unknown.isEmpty then p else p.addArgument (String.ofList ('-' :: found.unknown))

/-- Reads a command line. -/
def parse (g : Grammar) : List String → Except UsageError Parsed
  | [] => .ok {}
  | argument :: rest =>
    if argument = "--" then .ok { arguments := rest }
    else if !argument.startsWith "-" || argument.length ≤ 1 then
      if g.mixed then do return (← g.parse rest).addArgument argument
      else .ok { arguments := argument :: rest }
    else
      let (name, attached) := cutWord argument
      match g.ofWord? name with
      | some o =>
        if o.takesValue then
          match attached with
          | some value => do return (← g.parse rest).addOption o.word (some value)
          | none =>
            match rest with
            | value :: rest' => do return (← g.parse rest').addOption o.word (some value)
            | [] => .error (.missingValue o.word)
        else if attached.isSome then .error (.unwantedValue o.word)
        else do return (← g.parse rest).addOption o.word none
      | none =>
        if argument.startsWith "--" then
          if g.keepsUnknown then do return (← g.parse rest).addArgument argument
          else .error (.unknownOption name)
        else
          match g.letters (argument.toList.drop 1) with
          | .error e => .error e
          | .ok found =>
            match found.pending with
            | none => do return addLetters found none (← g.parse rest)
            | some o =>
              match rest with
              | value :: rest' => do return addLetters found (some value) (← g.parse rest')
              | [] => .error (.missingValue o.word)

end Grammar

end TermSearch.CommandLine
