import TermSearch.Document.Value

/-! Values as text. A plain value is written bare; inside a list or a mapping texts are quoted. -/
namespace TermSearch.Document.Value

mutual

def literal : Value → String
  | text s => Text.quoted s
  | halved s => (Text.Raw.halved s).quoted
  | bytes octets => Text.quotedOctets octets
  | time written => written
  | list items => "[" ++ literalItems items ++ "]"
  | set [] => "set()"
  | set (first :: more) => "\x7b" ++ literalItems (first :: more) ++ "\x7d"
  | mapping entries => "\x7b" ++ literalEntries entries ++ "\x7d"
  | null => "None"
  | bool b => if b then "True" else "False"
  | int n => toString n
  | real x => x.text

/-- Items with commas between them. -/
def literalItems : List Value → String
  | [] => ""
  | [item] => literal item
  | item :: next :: rest => literal item ++ ", " ++ literalItems (next :: rest)

/-- Entries with commas between them. -/
def literalEntries : List (Value × Value) → String
  | [] => ""
  | [(k, v)] => literal k ++ ": " ++ literal v
  | (k, v) :: next :: rest => literal k ++ ": " ++ literal v ++ ", " ++ literalEntries (next :: rest)

end

/-- A value as a text: a text stands for itself. -/
def plain : Value → Text.Raw
  | text s => .whole s
  | halved s => .halved s
  | v => .whole (literal v)

/-- A value as a text of characters, with an escape for each half of a surrogate pair. -/
def plainText (v : Value) : String := v.plain.shown

end TermSearch.Document.Value
