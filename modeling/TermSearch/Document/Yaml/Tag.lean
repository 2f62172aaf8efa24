/-! The tags of YAML nodes. A tag says what a node stands for; those of the format itself are told apart,
all others are known by name only. -/
namespace TermSearch.Document.Yaml

inductive CoreTag
  | null | bool | int | float | str | binary | timestamp
  | seq | map | set | omap | pairs
  | merge | value
  deriving DecidableEq, Repr

/-- The names of the tags of the format itself. -/
def coreNames : List (String × CoreTag) := [
  ("null", .null), ("bool", .bool), ("int", .int), ("float", .float), ("str", .str),
  ("binary", .binary), ("timestamp", .timestamp), ("seq", .seq), ("map", .map), ("set", .set),
  ("omap", .omap), ("pairs", .pairs), ("merge", .merge), ("value", .value)]

/-- What the full names of the tags of the format itself start with. -/
def coreStart : String := "tag:yaml.org,2002:"

/-- The full name of a tag of the format itself. -/
def CoreTag.fullName (t : CoreTag) : String :=
  coreStart ++ ((coreNames.find? fun entry => entry.2 = t).map Prod.fst).getD ""

/-- Whether nodes of a tag stand for values with parts, which are no keys. -/
def CoreTag.hasParts (t : CoreTag) : Bool := [seq, map, set, omap, pairs].contains t

/-- Whether nodes of a tag stand for values that are written as texts. -/
def CoreTag.isForText (t : CoreTag) : Bool :=
  [null, bool, int, float, str, binary, timestamp].contains t

inductive Tag
  | core (t : CoreTag)
  | other (name : String)
  deriving DecidableEq, Repr

def Tag.ofName (name : String) : Tag :=
  match coreNames.find? fun entry => coreStart ++ entry.1 = name with
  | some (_, t) => .core t
  | none => .other name

def Tag.fullName : Tag → String
  | core t => t.fullName
  | other name => name

/-- Whether nodes of a tag stand for values with parts. -/
def Tag.hasParts : Tag → Bool
  | core t => t.hasParts
  | other _ => false

/-- Whether nodes of a tag stand for values that are written as texts. -/
def Tag.isForText : Tag → Bool
  | core t => t.isForText
  | other _ => false

example (t : CoreTag) : Tag.ofName t.fullName = .core t := by cases t <;> decide +kernel
example : Tag.ofName "tag:yaml.org,2002:omap" = .core .omap := by decide +kernel
example : Tag.ofName "!omap" = .other "!omap" := by decide +kernel

end TermSearch.Document.Yaml
