import TermSearch.Text.Case

/-! The `LIKE` operator of the database: a percent sign stands for any text, an underscore for any
character, and a backslash takes away the meaning of the character behind it. Letters from A to Z
match in either case. An operand and a text end at their first null character. -/
namespace TermSearch.Sql

/-- The character that takes away the meaning of the next one. -/
def escapeMark : Char := '\x5c'

inductive LikeItem
  | anyText
  | anyChar
  | char (c : Char)
  deriving DecidableEq, Repr

/-- The items of an operand; an operand that ends in a lone escape has none. -/
def likeItems? : List Char → Option (List LikeItem)
  | [] => some []
  | c :: rest =>
    if c = escapeMark then
      match rest with
      | [] => none
      | d :: rest => (likeItems? rest).map (.char d :: ·)
    else if c = '%' then (likeItems? rest).map (.anyText :: ·)
    else if c = '_' then (likeItems? rest).map (.anyChar :: ·)
    else (likeItems? rest).map (.char c :: ·)

/-- Every ending of a text, the longest first. -/
def endings : List Char → List (List Char)
  | [] => [[]]
  | c :: rest => (c :: rest) :: endings rest

/-- The endings that remain once an item is matched at the start of one of the given endings. The
given ones are ordered by length, so every ending of the first is reached by any text. -/
def LikeItem.step (remaining : List (List Char)) : LikeItem → List (List Char)
  | anyText => (remaining.head?.map endings).getD []
  | anyChar => remaining.filterMap fun s => s.tail?
  | char c => remaining.filterMap fun s =>
    match s with
    | d :: rest => if Text.foldChar d = Text.foldChar c then some rest else none
    | [] => none

/-- A character as the database reads it: the last two of the first plane stand for no character there. -/
def readChar (c : Char) : Char := if c = '\ufffe' ∨ c = '\uffff' then '\ufffd' else c

/-- The characters that the database reads of an operand or a text. -/
def readChars (s : String) : List Char := (s.toList.takeWhile (· ≠ '\x00')).map readChar

def like (operand text : String) : Bool :=
  match likeItems? (readChars operand) with
  | some items => (items.foldl LikeItem.step [readChars text]).any List.isEmpty
  | none => false

/-- Writes a text so that an operand takes every character of it as it stands. -/
def escapeChars (s : List Char) : List Char :=
  s.flatMap fun c => if c = escapeMark ∨ c = '%' ∨ c = '_' then [escapeMark, c] else [c]

/-- A text as a literal part of an operand. -/
def escape (s : String) : String := String.ofList (escapeChars s.toList)

@[simp] theorem escapeChars_append (s t : List Char) :
    escapeChars (s ++ t) = escapeChars s ++ escapeChars t := by simp [escapeChars]

example : like "%a\\%b%" "xA%bY" = true := by decide +kernel
example : like "a_c" "abbc" = false := by decide +kernel
example : like "%moon\x00%" "full moon" = true := by decide +kernel

end TermSearch.Sql
