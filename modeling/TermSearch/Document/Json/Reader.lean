import TermSearch.Document.Value
import TermSearch.Text.CharSet

/-! Reading JSON text. Beside the standard grammar the words `NaN`, `Infinity` and `-Infinity` are
numbers. A numeral with a fraction or an exponent is a floating-point number, any other an integer,
which may not have too many digits. A repeated key of an object keeps its first place and its last value. A half of a
surrogate pair whose other half does not stand beside it is kept. -/
namespace TermSearch.Document.Json

open TermSearch.Decimal (Binary64)
open Text (Raw Piece)

inductive Cause
  | expectingValue
  | expectingName
  | expectingColon
  | expectingComma
  | unterminatedString
  | controlCharacter
  | invalidEscape
  | invalidUnicodeEscape
  | trailingText
  | byteOrderMark
  | tooManyDigits (count : Nat)
  deriving DecidableEq, Repr

/-- A fault in a JSON text and the number of characters in front of it. -/
structure Error where
  cause : Cause
  offset : Nat
  line : Nat
  column : Nat
  deriving DecidableEq, Repr

def Cause.message : Cause → String
  | expectingValue => "Expecting value"
  | expectingName => "Expecting property name enclosed in double quotes"
  | expectingColon => "Expecting ':' delimiter"
  | expectingComma => "Expecting ',' delimiter"
  | unterminatedString => "Unterminated string starting at"
  | controlCharacter => "Invalid control character at"
  | invalidEscape => "Invalid \\escape"
  | invalidUnicodeEscape => "Invalid \\uXXXX escape"
  | trailingText => "Extra data"
  | byteOrderMark => "Unexpected UTF-8 BOM (decode using utf-8-sig)"
  | tooManyDigits count => Text.tooManyDigitsMessage count

/-- Whether a text is not JSON, rather than JSON with an integer that is too long. -/
def Error.isMalformed (e : Error) : Bool :=
  match e.cause with
  | .tooManyDigits _ => false
  | _ => true

/-- The message of a fault, with its place in a text that is not JSON. -/
def Error.message (e : Error) : String :=
  if !e.isMalformed then e.cause.message
  else e.cause.message ++ ": line " ++ toString e.line ++ " column " ++ toString e.column ++
    " (char " ++ toString e.offset ++ ")"

/-- A cause together with the number of characters that remain from the fault on. -/
abbrev Fault := Cause × Nat

/-- Whether a character may stand between the parts of a value. -/
def isGap (c : Char) : Bool := c == ' ' || c == '\t' || c == '\n' || c == '\r'

/-- Skips the characters between parts. -/
def skipGap (s : List Char) : List Char := s.dropWhile isGap

def hexValue? (c : Char) : Option Nat :=
  if '0' ≤ c ∧ c ≤ '9' then some (c.toNat - 48)
  else if 'a' ≤ c ∧ c ≤ 'f' then some (c.toNat - 87)
  else if 'A' ≤ c ∧ c ≤ 'F' then some (c.toNat - 55)
  else none

/-- Four digits of base 16 and what follows them. -/
def fourHex? : List Char → Option (Nat × List Char)
  | a :: b :: c :: d :: rest => do
    let a ← hexValue? a
    let b ← hexValue? b
    let c ← hexValue? c
    let d ← hexValue? d
    return (((a * 16 + b) * 16 + c) * 16 + d, rest)
  | _ => none

/-- The character of a simple escape. -/
def simpleEscape? (c : Char) : Option Char :=
  if c = '\x22' ∨ c = '\x5c' ∨ c = '/' then some c
  else if c = 'b' then some '\x08'
  else if c = 'f' then some '\x0c'
  else if c = 'n' then some '\n'
  else if c = 'r' then some '\r'
  else if c = 't' then some '\t'
  else none

/-- The character of a surrogate pair with a given first code, where an escape for the second one starts the text. -/
def pairWith? (n : Nat) : List Char → Option (Char × List Char)
  | '\x5c' :: 'u' :: digits => do
    let (m, rest) ← fourHex? digits
    if 0xD800 ≤ n ∧ n ≤ 0xDBFF ∧ 0xDC00 ≤ m ∧ m ≤ 0xDFFF then
      return (Char.ofNat (0x10000 + (n - 0xD800) * 0x400 + (m - 0xDC00)), rest)
    else none
  | _ => none

/-- What a `\u` escape stands for whose digits start the text; two escapes for the halves of a surrogate pair are one
character. -/
def unicodeEscape? (s : List Char) : Option (Piece × List Char) := do
  let (n, rest) ← fourHex? s
  match pairWith? n rest with
  | some (c, rest) => return (.char c, rest)
  | none => return (.ofCode n, rest)

/-- The rest of a string after its opening mark: its text and what follows the closing mark.
`start` counts the characters from the opening mark on, and `fuel` bounds the characters read. -/
def stringBody (start : Nat) : Nat → List Piece → List Char → Except Fault (Raw × List Char)
  | 0, _, _ => throw (.unterminatedString, start)
  | _ + 1, _, [] => throw (.unterminatedString, start)
  | fuel + 1, acc, c :: rest =>
    if c = '\x22' then return (.ofPieces acc.reverse, rest)
    else if c = '\x5c' then
      match rest with
      | [] => throw (.unterminatedString, start)
      | 'u' :: digits =>
        match unicodeEscape? digits with
        | some (p, rest') => stringBody start fuel (p :: acc) rest'
        | none => throw (.invalidUnicodeEscape, rest.length)
      | e :: rest' =>
        match simpleEscape? e with
        | some d => stringBody start fuel (.char d :: acc) rest'
        | none => throw (.invalidEscape, rest.length + 1)
    else if c.toNat < 0x20 then throw (.controlCharacter, rest.length + 1)
    else stringBody start fuel (.char c :: acc) rest

/-- The number that a run of digits stands for. -/
def digitsValue (ds : List Char) : Nat := ds.foldl (fun n d => n * 10 + (d.toNat - 48)) 0

/-- The whole digits of a numeral: a single zero, or digits that do not start with one. -/
def wholeDigits? : List Char → Option (List Char × List Char)
  | '0' :: rest => some (['0'], rest)
  | c :: rest =>
    if c.isDigit then some (c :: rest.takeWhile Char.isDigit, rest.dropWhile Char.isDigit) else none
  | [] => none

/-- The digits after a point, where a point with digits follows. -/
def fractionDigits : List Char → List Char × List Char
  | '.' :: rest =>
    let digits := rest.takeWhile Char.isDigit
    if digits.isEmpty then ([], '.' :: rest) else (digits, rest.dropWhile Char.isDigit)
  | s => ([], s)

/-- The exponent, where a mark with digits follows. -/
def exponentPart? (s : List Char) : Option (Int × List Char) :=
  match s with
  | c :: rest =>
    if c = 'e' ∨ c = 'E' then
      let (negative, digits) := match rest with
        | '-' :: more => (true, more)
        | '+' :: more => (false, more)
        | more => (false, more)
      let run := digits.takeWhile Char.isDigit
      if run.isEmpty then none
      else
        let n : Int := digitsValue run
        some (if negative then -n else n, digits.dropWhile Char.isDigit)
    else none
  | [] => none

/-- The integer of a numeral that is nothing but digits and perhaps a sign. -/
def integer (negative : Bool) (digits : List Char) : Except Cause Value :=
  if Text.maxDigits < digits.length then throw (.tooManyDigits digits.length)
  else
    let n : Int := digitsValue digits
    return .int (if negative then -n else n)

/-- A numeral at the start of a text, and what follows it. -/
def number? (s : List Char) : Option (Except Cause Value × List Char) :=
  let (negative, unsigned) := match s with
    | '-' :: rest => (true, rest)
    | rest => (false, rest)
  match wholeDigits? unsigned with
  | none => none
  | some (whole, rest) =>
    let (fraction, rest) := fractionDigits rest
    match exponentPart? rest with
    | some (e, rest) =>
      let amount := digitsValue (whole ++ fraction)
      some (.ok (.real (.ofDecimal negative amount (e - fraction.length))), rest)
    | none =>
      if fraction.isEmpty then some (integer negative whole, rest)
      else
        let amount := digitsValue (whole ++ fraction)
        some (.ok (.real (.ofDecimal negative amount (-fraction.length))), rest)

/-- The words that stand for values. -/
def words : List (List Char × Value) :=
  [("null".toList, .null), ("true".toList, .bool true), ("false".toList, .bool false),
   ("NaN".toList, .real .undefined), ("Infinity".toList, .real (.infinite false)),
   ("-Infinity".toList, .real (.infinite true))]

/-- A word that stands for a value at the start of a text. -/
def word? (s : List Char) : Option (Value × List Char) :=
  words.findSome? fun (w, v) => if w.isPrefixOf s then some (v, s.drop w.length) else none

mutual

/-- A value at the start of a text. -/
def readValue : Nat → List Char → Except Fault (Value × List Char)
  | 0, s => throw (.expectingValue, s.length)
  | fuel + 1, s =>
    match s with
    | '\x22' :: rest => do
      let (t, rest) ← stringBody s.length s.length [] rest
      return (.ofRaw t, rest)
    | '[' :: rest =>
      match skipGap rest with
      | ']' :: rest => return (.list [], rest)
      | rest => do
        let (items, rest) ← readItems fuel rest
        return (.list items, rest)
    | '\x7b' :: rest =>
      match skipGap rest with
      | '\x7d' :: rest => return (.mapping [], rest)
      | rest => do
        let (entries, rest) ← readEntries fuel rest
        return (.mapping (Value.entriesOf entries), rest)
    | _ =>
      match word? s with
      | some found => return found
      | none =>
        match number? s with
        | some (.ok v, rest) => return (v, rest)
        | some (.error cause, _) => throw (cause, s.length)
        | none => throw (.expectingValue, s.length)

/-- Items up to the closing bracket. -/
def readItems : Nat → List Char → Except Fault (List Value × List Char)
  | 0, s => throw (.expectingValue, s.length)
  | fuel + 1, s => do
    let (item, rest) ← readValue fuel s
    match skipGap rest with
    | ']' :: rest => return ([item], rest)
    | ',' :: rest => do
      let (items, rest) ← readItems fuel (skipGap rest)
      return (item :: items, rest)
    | rest => throw (.expectingComma, rest.length)

/-- Entries up to the closing brace. -/
def readEntries : Nat → List Char → Except Fault (List (Value × Value) × List Char)
  | 0, s => throw (.expectingName, s.length)
  | fuel + 1, s =>
    match s with
    | '\x22' :: rest => do
      let (key, rest) ← stringBody s.length s.length [] rest
      match skipGap rest with
      | ':' :: rest => do
        let (value, rest) ← readValue fuel (skipGap rest)
        match skipGap rest with
        | '\x7d' :: rest => return ([(.ofRaw key, value)], rest)
        | ',' :: rest => do
          let (entries, rest) ← readEntries fuel (skipGap rest)
          return ((.ofRaw key, value) :: entries, rest)
        | rest => throw (.expectingComma, rest.length)
      | rest => throw (.expectingColon, rest.length)
    | _ => throw (.expectingName, s.length)

end

def readAll (s : List Char) : Except Fault Value := do
  if s.head? = some '\ufeff' then throw (.byteOrderMark, s.length)
  let (value, rest) ← readValue (2 * s.length + 2) (skipGap s)
  let rest := skipGap rest
  if rest.isEmpty then return value else throw (.trailingText, rest.length)

/-- A fault with its place in the text. -/
def locate (s : List Char) (fault : Fault) : Error :=
  let before := s.take (s.length - fault.2)
  { cause := fault.1
    offset := before.length
    line := before.count '\n' + 1
    column := (before.reverse.takeWhile (· != '\n')).length + 1 }

/-- The value that a JSON text stands for. -/
def read (text : String) : Except Error Value :=
  (readAll text.toList).mapError (locate text.toList)

end TermSearch.Document.Json
