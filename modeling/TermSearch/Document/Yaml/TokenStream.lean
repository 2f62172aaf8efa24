import TermSearch.Document.Yaml.Directive
import TermSearch.Document.Yaml.QuotedText

/-! The tokens of a YAML text in order. Outside brackets the indentation opens and closes blocks. A key
is recognised by the colon behind it, so every token that may be a key is remembered until the colon
comes, until its line ends or until it is too long; the key token is then put in front of it. A fault ends
the stream of tokens, and so does not count where the tokens before it are at fault themselves. -/
namespace TermSearch.Document.Yaml

inductive Style
  | plain | quoted
  deriving DecidableEq, Repr

/-- A token of a text. Indentation and the keys of mappings are tokens of their own. -/
inductive Token
  | directive (d : Directive)
  | documentStart
  | documentEnd
  | blockSequenceStart
  | blockMappingStart
  | blockEnd
  | flowSequenceStart
  | flowSequenceEnd
  | flowMappingStart
  | flowMappingEnd
  | blockEntry
  | flowEntry
  | key
  | value
  | alias (name : String)
  | anchor (name : String)
  | tag (t : WrittenTag)
  | scalar (style : Style) (text : String)
  deriving DecidableEq, Repr

/-- The tokens of a text, up to its end or to a fault. -/
structure TokenStream where
  tokens : List Token
  fault : Option Error := none
  deriving DecidableEq, Repr

/-- A token that may turn out to be a key: the number of tokens before it, its place, and whether it has
to be one because the block it stands in holds nothing else. -/
structure KeyCandidate where
  position : Nat
  place : Place
  required : Bool
  deriving DecidableEq, Repr

/-- The greatest number of characters of a key without a question mark before it. -/
def maxKeyLength : Nat := 1024

/-- What has been read of a text, and what remains. -/
structure Scan where
  rest : List Char
  place : Place := {}
  /-- The column of the innermost block, `-1` outside all blocks. -/
  indent : Int := -1
  outerIndents : List Int := []
  /-- Whether a key may start here. -/
  allowsKey : Bool := true
  /-- The possible key outside brackets and inside each open bracket, the innermost first. -/
  candidates : List (Option KeyCandidate) := [none]
  tokens : List Token := []

namespace Scan

/-- Whether the text is inside brackets. -/
def inFlow (s : Scan) : Bool := 1 < s.candidates.length

/-- Moves to a later place of the text. -/
def moveTo (s : Scan) (rest : List Char) : Scan :=
  { s with
    rest := rest
    place := s.place.advance (s.rest.take (s.rest.length - rest.length)) }

/-- Moves over some characters. -/
def move (s : Scan) (count : Nat) : Scan := s.moveTo (s.rest.drop count)

def emit (s : Scan) (t : Token) : Scan := { s with tokens := s.tokens ++ [t] }

/-- Forgets the possible key of the innermost level; one that had to be a key is a fault. -/
def forgetCandidate (s : Scan) : Except Error Scan :=
  match s.candidates with
  | some c :: outer =>
    if c.required then .error .missingColon else .ok { s with candidates := none :: outer }
  | _ => .ok s

/-- Remembers that the next token may be a key. -/
def saveCandidate (s : Scan) : Except Error Scan :=
  if s.allowsKey then do
    let s ← s.forgetCandidate
    let required := !s.inFlow && s.indent == s.place.column
    return { s with
      candidates := some ⟨s.tokens.length, s.place, required⟩ :: s.candidates.drop 1 }
  else .ok s

/-- Whether a possible key can no longer be one at a place. -/
def KeyCandidate.isStale (c : KeyCandidate) (p : Place) : Bool :=
  c.place.line != p.line || maxKeyLength < p.index - c.place.index

/-- Forgets the possible keys that can no longer be keys. -/
def dropStale (s : Scan) : Except Error Scan :=
  let stale (c : KeyCandidate) : Bool := KeyCandidate.isStale c s.place
  if s.candidates.any fun c => c.any fun c => c.required && stale c then .error .missingColon
  else .ok { s with candidates := s.candidates.map fun c => c.filter fun c => !stale c }

/-- Closes the blocks that are indented deeper than a column, with one token for each. -/
def closeBlocksFrom (column : Int) : Int → List Int → List Token × Int × List Int
  | indent, [] => ([], indent, [])
  | indent, outer :: rest =>
    if column < indent then
      let (tokens, found) := closeBlocksFrom column outer rest
      (.blockEnd :: tokens, found)
    else ([], indent, outer :: rest)

/-- Closes the blocks that end before a column; inside brackets indentation does not count. -/
def closeBlocks (s : Scan) (column : Int) : Scan :=
  if s.inFlow then s
  else
    let (tokens, indent, outer) := closeBlocksFrom column s.indent s.outerIndents
    { s with tokens := s.tokens ++ tokens, indent := indent, outerIndents := outer }

/-- Opens a block at a column if it is deeper than the innermost one; its token goes before the tokens
from a position on. -/
def openBlock (s : Scan) (column : Nat) (position : Nat) (t : Token) : Scan :=
  if s.indent < column then
    { s with
      outerIndents := s.indent :: s.outerIndents
      indent := column
      tokens := s.tokens.take position ++ t :: s.tokens.drop position }
  else s

/-- Skips spaces, comments and line ends, and tells whether a line has ended. -/
def skipGap (crossed : Bool) (s : List Char) : Bool × List Char :=
  match _h : takeBreak (dropComment (s.dropWhile (· == ' '))) with
  | some (_, rest) => skipGap true rest
  | none => (crossed, dropComment (s.dropWhile (· == ' ')))
termination_by s.length
decreasing_by
  have h1 := length_lt_of_takeBreak _h
  have h2 := length_dropWhile_le (· == ' ') s
  have h3 : (dropComment (s.dropWhile (· == ' '))).length ≤ (s.dropWhile (· == ' ')).length := by
    unfold dropComment
    split
    · exact length_dropWhile_le _ _
    · exact Nat.le_refl _
  omega

/-- Moves to the next token, and closes the blocks that end before it. -/
def toNextToken (s : Scan) : Except Error Scan := do
  let s := if s.place.index = 0 ∧ s.rest.head? = some '\ufeff' then s.move 1 else s
  let (crossed, rest) := skipGap false s.rest
  let s := s.moveTo rest
  let s := if crossed && !s.inFlow then { s with allowsKey := true } else s
  let s ← s.dropStale
  return s.closeBlocks s.place.column

def finish (s : Scan) : Except Error Scan := (s.closeBlocks (-1)).forgetCandidate

/-- Reads a token that marks the start or the end of a document. -/
def readMark (s : Scan) (t : Token) : Except Error Scan := do
  let s ← (s.closeBlocks (-1)).forgetCandidate
  return { (s.move 3).emit t with allowsKey := false }

def readOpening (s : Scan) (t : Token) : Except Error Scan := do
  let s ← s.saveCandidate
  return { (s.move 1).emit t with allowsKey := true, candidates := none :: s.candidates }

/-- Reads a closing bracket; one without an opening bracket is a fault. -/
def readClosing (s : Scan) (t : Token) : Except Error Scan := do
  let s ← s.forgetCandidate
  match s.candidates with
  | _ :: outer :: more =>
    return { (s.move 1).emit t with allowsKey := false, candidates := outer :: more }
  | _ => .error .unexpectedToken

/-- Reads a comma. -/
def readComma (s : Scan) : Except Error Scan := do
  let s ← { s with allowsKey := true }.forgetCandidate
  return (s.move 1).emit .flowEntry

def readDash (s : Scan) : Except Error Scan := do
  let s ←
    if s.inFlow then pure s
    else if s.allowsKey then
      pure (s.openBlock s.place.column s.tokens.length .blockSequenceStart)
    else .error .entryNotAllowed
  let s ← { s with allowsKey := true }.forgetCandidate
  return (s.move 1).emit .blockEntry

/-- Reads the question mark of a key. -/
def readQuestion (s : Scan) : Except Error Scan := do
  let s ←
    if s.inFlow then pure s
    else if s.allowsKey then
      pure (s.openBlock s.place.column s.tokens.length .blockMappingStart)
    else .error .keyNotAllowed
  let s ← { s with allowsKey := !s.inFlow }.forgetCandidate
  return (s.move 1).emit .key

/-- Reads the colon of a value. If a possible key stands before it, the key token goes in front of that,
and in front of it the start of a block where the key starts one. -/
def readColon (s : Scan) : Except Error Scan := do
  match s.candidates with
  | some c :: outer =>
    let s := { s with
      candidates := none :: outer
      tokens := s.tokens.take c.position ++ Token.key :: s.tokens.drop c.position }
    let s := if s.inFlow then s else s.openBlock c.place.column c.position .blockMappingStart
    return ({ s with allowsKey := false }.move 1).emit .value
  | _ =>
    let s ←
      if s.inFlow then pure s
      else if s.allowsKey then
        pure (s.openBlock s.place.column s.tokens.length .blockMappingStart)
      else .error .valueNotAllowed
    let s ← { s with allowsKey := !s.inFlow }.forgetCandidate
    return (s.move 1).emit .value

/-- Reads a token that may be a key. -/
def readNode (s : Scan) (t : Token) (rest : List Char) (allowsKey : Bool) : Except Error Scan := do
  let s ← s.saveCandidate
  return { (s.moveTo rest).emit t with allowsKey := allowsKey }

def endsName (s : List Char) : Bool :=
  atGap s || ['?', ':', ',', ']', '\x7d', '%', '@', '\x60'].contains (s.headD ' ')

/-- Reads the name of an anchor or an alias, whose sign is the next character. -/
def readName (s : Scan) (token : String → Token) : Except Error Scan :=
  let name := (s.rest.drop 1).takeWhile isNameChar
  let rest := (s.rest.drop 1).dropWhile isNameChar
  if name.isEmpty || !endsName rest then .error .badName
  else s.readNode (token (String.ofList name)) rest false

def readTag (s : Scan) : Except Error Scan :=
  match takeTag (s.rest.drop 1) with
  | some (t, rest) => s.readNode (.tag t) rest false
  | none => .error .badTag

def readDirective (s : Scan) : Except Error Scan := do
  let s ← (s.closeBlocks (-1)).forgetCandidate
  let (d, rest) ← takeDirective (s.rest.drop 1)
  return { (s.moveTo rest).emit (.directive d) with allowsKey := false }

/-- Reads a block scalar, whose indicator is the next character. A key may follow it. -/
def readBlock (s : Scan) (folded : Bool) : Except Error Scan := do
  let s ← { s with allowsKey := true }.forgetCandidate
  let (text, rest) ← blockText folded s.indent (s.rest.drop 1)
  return (s.moveTo rest).emit (.scalar .quoted (String.ofList text))

/-- Reads a quoted scalar, whose quote is the next character. -/
def readQuoted (s : Scan) (quotes : Quotes) : Except Error Scan := do
  let (text, rest) ← quotedText quotes (s.rest.drop 1)
  s.readNode (.scalar .quoted (String.ofList text)) rest false

/-- Reads a plain scalar. A key may follow it if it ends with its line. -/
def readPlain (s : Scan) : Except Error Scan :=
  let found := plainText s.inFlow s.indent s.rest
  s.readNode (.scalar .plain (String.ofList found.text)) found.rest found.crossesLine

/-- Whether a plain scalar may start with a character and what follows it. -/
def startsPlain (inFlow : Bool) (c : Char) (rest : List Char) : Bool :=
  let isSign := ['-', '?', ':', ',', '[', ']', '\x7b', '\x7d', '#', '&', '*', '!', '|', '>', '\x27',
    '\x22', '%', '@', '\x60'].contains c
  !(atGap [c] || isSign) || (!atGap rest && (c == '-' || (!inFlow && (c == '?' || c == ':'))))

/-- Reads the next token, which starts with a character. -/
def readToken (s : Scan) (c : Char) (rest : List Char) : Except Error Scan :=
  let atStart := s.place.column == 0
  let gap := s.inFlow || atGap rest
  if c == '%' && atStart then s.readDirective
  else if atStart && isMark '-' (c :: rest) then s.readMark .documentStart
  else if atStart && isMark '.' (c :: rest) then s.readMark .documentEnd
  else if c == '[' then s.readOpening .flowSequenceStart
  else if c == '\x7b' then s.readOpening .flowMappingStart
  else if c == ']' then s.readClosing .flowSequenceEnd
  else if c == '\x7d' then s.readClosing .flowMappingEnd
  else if c == ',' then s.readComma
  else if c == '-' && atGap rest then s.readDash
  else if c == '?' && gap then s.readQuestion
  else if c == ':' && gap then s.readColon
  else if c == '*' then s.readName .alias
  else if c == '&' then s.readName .anchor
  else if c == '!' then s.readTag
  else if c == '|' && !s.inFlow then s.readBlock false
  else if c == '>' && !s.inFlow then s.readBlock true
  else if c == '\x27' then s.readQuoted .single
  else if c == '\x22' then s.readQuoted .double
  else if startsPlain s.inFlow c rest then s.readPlain
  else .error (.badCharacter c)

/-- Reads the next token, and tells whether there is one. -/
def step (s : Scan) : Except Error (Scan ⊕ Scan) := do
  let s ← s.toNextToken
  match s.rest with
  | [] => return .inl (← s.finish)
  | c :: rest => return .inr (← s.readToken c rest)

/-- The tokens in front of which nothing can be put any more. -/
def settled (s : Scan) : List Token :=
  let live := (s.candidates.filterMap id).filter fun c => !KeyCandidate.isStale c s.place
  live.foldl (fun tokens c => tokens.take c.position) s.tokens

/-- Reads the remaining tokens. Every token takes at least one character. -/
def run (s : Scan) : TokenStream :=
  match s.step with
  | .error e => ⟨s.settled, some e⟩
  | .ok (.inl last) => ⟨last.tokens, none⟩
  | .ok (.inr next) =>
    if _h : next.rest.length < s.rest.length then next.run else ⟨s.settled, some .unexpectedToken⟩
termination_by s.rest.length

end Scan

def isPrintable (c : Char) : Bool :=
  c == '\t' || c == '\n' || c == '\r' || (' ' ≤ c && c ≤ '~') || c == '\x85' ||
    ('\xa0' ≤ c && c != '\ufffe' && c != '\uffff')

/-- The tokens of a text. Where a character may not stand in a text there are none. -/
def TokenStream.ofText (s : List Char) : TokenStream :=
  match s.find? fun c => !isPrintable c with
  | some c => ⟨[], some (.unprintable c)⟩
  | none => Scan.run { rest := s }

example : TokenStream.ofText "a: [x, y]".toList = ⟨[
    .blockMappingStart, .key, .scalar .plain "a", .value, .flowSequenceStart, .scalar .plain "x",
    .flowEntry, .scalar .plain "y", .flowSequenceEnd, .blockEnd], none⟩ := by decide +kernel
example : TokenStream.ofText "- x: *".toList =
    ⟨[.blockSequenceStart, .blockEntry, .blockMappingStart, .key, .scalar .plain "x", .value],
      some .badName⟩ := by decide +kernel

end TermSearch.Document.Yaml
