/-! Places in a YAML text, and the characters that separate its parts. -/
namespace TermSearch.Document.Yaml

/-- Whether a character is a blank within a line. -/
def isBlank (c : Char) : Bool := c == ' ' || c == '\t'

def isBreak (c : Char) : Bool :=
  c == '\n' || c == '\r' || c == '\x85' || c == '\u2028' || c == '\u2029'

/-- Whether a text is at its end, at a blank or at the end of a line. -/
def atGap : List Char → Bool
  | [] => true
  | c :: _ => isBlank c || isBreak c

/-- Whether a text is at its end, at a space or at the end of a line. -/
def atSpace (s : List Char) : Bool := atGap s && s.head? != some '\t'

def isNameChar (c : Char) : Bool := c.isAlphanum || c == '-' || c == '_'

/-- A text without the line feed at its end, if there is one. -/
def withoutLineEnd (s : List Char) : List Char := if s.getLast? = some '\n' then s.dropLast else s

/-- Takes one line end from the front of a text. The usual line ends all stand for a line feed; the two
separators of paragraphs and lines stand for themselves. -/
def takeBreak : List Char → Option (Char × List Char)
  | '\r' :: '\n' :: rest => some ('\n', rest)
  | c :: rest =>
    if c == '\u2028' || c == '\u2029' then some (c, rest)
    else if isBreak c then some ('\n', rest)
    else none
  | [] => none

theorem length_lt_of_takeBreak {s rest : List Char} {c : Char} (h : takeBreak s = some (c, rest)) :
    rest.length < s.length := by
  unfold takeBreak at h
  split at h
  · cases h; exact Nat.lt_succ_of_lt (Nat.lt_succ_self _)
  · split at h
    · cases h; simp
    · split at h
      · cases h; simp
      · simp at h
  · simp at h

theorem length_dropWhile_le (p : Char → Bool) (s : List Char) : (s.dropWhile p).length ≤ s.length :=
  (List.dropWhile_sublist p).length_le

/-- Whether a line starts with three times the given character, and nothing behind it. -/
def isMark (mark : Char) : List Char → Bool
  | a :: b :: c :: rest => a == mark && b == mark && c == mark && atGap rest
  | _ => false

/-- Whether a line marks the start or the end of a document. -/
def atDocumentMark (s : List Char) : Bool := isMark '-' s || isMark '.' s

/-- A place in a text: the number of characters before it, of lines before its line, and of characters
before it on its line. -/
structure Place where
  index : Nat := 0
  line : Nat := 0
  column : Nat := 0
  deriving DecidableEq, Repr, Inhabited

/-- The place behind some characters. A byte order mark takes up no column. -/
def Place.advance (p : Place) : List Char → Place
  | [] => p
  | '\r' :: '\n' :: rest => Place.advance ⟨p.index + 2, p.line + 1, 0⟩ rest
  | c :: rest =>
    if isBreak c then Place.advance ⟨p.index + 1, p.line + 1, 0⟩ rest
    else Place.advance ⟨p.index + 1, p.line, if c = '\ufeff' then p.column else p.column + 1⟩ rest

example : Place.advance {} "a\r\nbc".toList = ⟨5, 1, 2⟩ := by decide +kernel

end TermSearch.Document.Yaml
