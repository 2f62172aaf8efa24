import TermSearch.Document.Literal

/-! Printing values as JSON text, on one line or indented. Only the characters that JSON forbids in
a string are escaped, and halves of surrogate pairs. Values of kinds that JSON does not know are written as strings, and sets as arrays. -/
namespace TermSearch.Document.Json

open TermSearch.Decimal

/-- Numbers as JSON words where they have no numeral. -/
def numberLayout : Layout := { plainLayout with undefinedText := "NaN", infiniteText := "Infinity" }

/-- The text of one character inside a string. -/
def escapeChar (c : Char) : List Char :=
  if c = '\x22' ∨ c = '\x5c' then ['\x5c', c]
  else if c = '\n' then "\\n".toList
  else if c = '\r' then "\\r".toList
  else if c = '\t' then "\\t".toList
  else if c = '\x08' then "\\b".toList
  else if c = '\x0c' then "\\f".toList
  else if c.toNat < 0x20 then "\\u".toList ++ Text.hexDigits 4 c.toNat
  else [c]

def string (s : String) : String :=
  "\"" ++ String.ofList (s.toList.flatMap escapeChar) ++ "\""

/-- A text with halves of surrogate pairs as a string. -/
def halvedString (s : Text.Halved) : String :=
  "\"" ++ String.ofList (s.pieces.flatMap fun
    | .char c => escapeChar c
    | .half h => Text.Piece.escape h) ++ "\""

def key : Value → String
  | .text s => string s
  | .halved s => halvedString s
  | .bool b => string (if b then "true" else "false")
  | .null => string "null"
  | .real x => string (numberLayout.write x)
  | v => string v.plainText

mutual

/-- A value on one line. -/
def compact : Value → String
  | .null => "null"
  | .bool b => if b then "true" else "false"
  | .int n => toString n
  | .real x => numberLayout.write x
  | .text s => string s
  | .halved s => halvedString s
  | .bytes octets => string (Text.quotedOctets octets)
  | .time written => string written
  | .set members => "[" ++ compactItems members ++ "]"
  | .list items => "[" ++ compactItems items ++ "]"
  | .mapping entries => "\x7b" ++ compactEntries entries ++ "\x7d"

/-- Items with commas between them. -/
def compactItems : List Value → String
  | [] => ""
  | [item] => compact item
  | item :: next :: rest => compact item ++ "," ++ compactItems (next :: rest)

/-- Entries with commas between them. -/
def compactEntries : List (Value × Value) → String
  | [] => ""
  | [(k, v)] => key k ++ ":" ++ compact v
  | (k, v) :: next :: rest => key k ++ ":" ++ compact v ++ "," ++ compactEntries (next :: rest)

end

/-- A line end followed by the indentation of a depth, two spaces a level. -/
def newline (depth : Nat) : String := "\n" ++ String.ofList (List.replicate (2 * depth) ' ')

mutual

/-- A value over several lines, with its parts one level deeper than itself. -/
def indented (depth : Nat) : Value → String
  | .list [] => "[]"
  | .list items => "[" ++ indentedItems (depth + 1) items ++ newline depth ++ "]"
  | .set [] => "[]"
  | .set members => "[" ++ indentedItems (depth + 1) members ++ newline depth ++ "]"
  | .mapping [] => "\x7b\x7d"
  | .mapping entries =>
    "\x7b" ++ indentedEntries (depth + 1) entries ++ newline depth ++ "\x7d"
  | .null => "null"
  | .bool b => if b then "true" else "false"
  | .int n => toString n
  | .real x => numberLayout.write x
  | .text s => string s
  | .halved s => halvedString s
  | .bytes octets => string (Text.quotedOctets octets)
  | .time written => string written

/-- Items, each on a line of its own. -/
def indentedItems (depth : Nat) : List Value → String
  | [] => ""
  | [item] => newline depth ++ indented depth item
  | item :: next :: rest =>
    newline depth ++ indented depth item ++ "," ++ indentedItems depth (next :: rest)

/-- Entries, each on a line of its own. -/
def indentedEntries (depth : Nat) : List (Value × Value) → String
  | [] => ""
  | [(k, v)] => newline depth ++ key k ++ ": " ++ indented depth v
  | (k, v) :: next :: rest =>
    newline depth ++ key k ++ ": " ++ indented depth v ++ "," ++
      indentedEntries depth (next :: rest)

end

/-- A value over several lines. -/
def pretty (v : Value) : String := indented 0 v

end TermSearch.Document.Json
