import TermSearch.Document.Yaml.Error
import TermSearch.Document.Yaml.PlainText
import TermSearch.Text.Integer

/-! Quoted scalars. Between single quotes only the quote itself is written twice; between double quotes a
backslash starts an escape, or drops a line end. Other line ends are folded as in plain scalars. -/
namespace TermSearch.Document.Yaml

inductive Quotes
  | single | double
  deriving DecidableEq, Repr

def Quotes.mark : Quotes → Char
  | single => '\x27'
  | double => '\x22'

/-- The characters that a single letter behind a backslash stands for. -/
def escapes : List (Char × Char) := [
  ('0', '\x00'), ('a', '\x07'), ('b', '\x08'), ('t', '\t'), ('\t', '\t'), ('n', '\n'), ('v', '\x0b'),
  ('f', '\x0c'), ('r', '\r'), ('e', '\x1b'), (' ', ' '), ('\x22', '\x22'), ('\x5c', '\x5c'),
  ('/', '/'), ('N', '\x85'), ('_', '\xa0'), ('L', '\u2028'), ('P', '\u2029')]

/-- The number of digits of base 16 behind a letter that announces a code. -/
def codeLength? : Char → Option Nat
  | 'x' => some 2
  | 'u' => some 4
  | 'U' => some 8
  | _ => none

/-- The number that digits of base 16 stand for. -/
def hexNumber? (digits : List Char) : Option Nat :=
  digits.foldlM (fun n d => (Text.hexDigit? d).map (n * 16 + ·)) 0

/-- The character of a code; half a pair of codes stands for a replacement character. -/
def charOfCode (code : Nat) : Except Error Char :=
  if 0x10FFFF < code then .error (.noCharacter code)
  else if code.isValidChar then .ok (Char.ofNat code)
  else .ok '\ufffd'

/-- The empty lines behind a line end inside quotes, with their blanks; a document mark is refused. -/
def quotedEmptyLines (s : List Char) : Except Error (List Char × List Char) :=
  if atDocumentMark s then .error .unterminatedText
  else
    match _h : takeBreak (s.dropWhile isBlank) with
    | some (c, rest) => do
      let (breaks, after) ← quotedEmptyLines rest
      return (c :: breaks, after)
    | none => .ok ([], s.dropWhile isBlank)
termination_by s.length
decreasing_by
  have := length_lt_of_takeBreak _h
  have := length_dropWhile_le isBlank s
  omega

/-- Blanks or line ends inside quotes, as the text they stand for. -/
def quotedGap (s : List Char) : Except Error (List Char × List Char) :=
  let rest := s.dropWhile isBlank
  match takeBreak rest with
  | some (c, rest) => do
    let (breaks, after) ← quotedEmptyLines rest
    return (foldBreaks c breaks, after)
  | none => .ok (s.takeWhile isBlank, rest)

/-- What an escape stands for, and what follows it; the backslash has been read. -/
def readEscape : List Char → Except Error (List Char × List Char)
  | [] => .error .badEscape
  | c :: rest =>
    match escapes.lookup c with
    | some d => .ok ([d], rest)
    | none =>
      match codeLength? c with
      | some count =>
        match if count ≤ rest.length then hexNumber? (rest.take count) else none with
        | some code => do return ([← charOfCode code], rest.drop count)
        | none => .error .badEscape
      | none =>
        match takeBreak (c :: rest) with
        | some (_, rest) => quotedEmptyLines rest
        | none => .error .badEscape

/-- The first part of a quoted scalar as the text it stands for, and what follows it: a gap, an escape,
a pair of quotes or one character. The end of the scalar has no first part. -/
def quotedPart (quotes : Quotes) : List Char → Except Error (Option (List Char) × List Char)
  | [] => .error .unterminatedText
  | c :: rest =>
    if isBlank c || isBreak c then do
      let (text, rest) ← quotedGap (c :: rest)
      return (some text, rest)
    else if quotes = .double ∧ c = '\x5c' then do
      let (text, rest) ← readEscape rest
      return (some text, rest)
    else if c = quotes.mark then
      if quotes = .single ∧ rest.head? = some '\x27' then .ok (some ['\x27'], rest.drop 1)
      else .ok (none, rest)
    else .ok (some [c], rest)

/-- The quoted scalar whose opening quote has been read, and what follows it. -/
def quotedText (quotes : Quotes) (s : List Char) : Except Error (List Char × List Char) := do
  match ← quotedPart quotes s with
  | (none, rest) => return ([], rest)
  | (some text, rest) =>
    if _h : rest.length < s.length then
      let (more, after) ← quotedText quotes rest
      return (text ++ more, after)
    else .error .unterminatedText
termination_by s.length

example : (quotedText .single "it''s' x".toList).toOption = some ("it's".toList, " x".toList) := by
  decide +kernel
example : (quotedText .double "a\n\n b\\u6771\"".toList).toOption =
    some ("a\nb\u6771".toList, []) := by decide +kernel

end TermSearch.Document.Yaml
