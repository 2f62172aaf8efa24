import TermSearch.Text.Quoted
import TermSearch.Text.Space

/-! Texts as documents give them. A document may name a half of a surrogate pair without the other half; such a half is
no character, but it is kept in the text where it stands. -/
namespace TermSearch.Text

/-- A half of a surrogate pair: its code counted from the first one. -/
abbrev Half := Fin 0x800

def Half.code (h : Half) : Nat := 0xD800 + h.val

/-- A part of a text: a character, or a half that stands alone. -/
inductive Piece
  | char (c : Char)
  | half (h : Half)
  deriving DecidableEq, Repr

namespace Piece

/-- The part with a code of sixteen bits. -/
def ofCode (n : Nat) : Piece :=
  if 0xD800 ≤ n ∧ n ≤ 0xDFFF then .half (Fin.ofNat 0x800 (n - 0xD800)) else .char (Char.ofNat n)

def isHalf : Piece → Bool
  | char _ => false
  | half _ => true

def char? : Piece → Option Char
  | char c => some c
  | half _ => none

def half? : Piece → Option Half
  | char _ => none
  | half h => some h

/-- Whether a part is white space. -/
def isSpace : Piece → Bool
  | char c => Text.isSpace c
  | half _ => false

/-- The escape of a half. -/
def escape (h : Half) : List Char := "\\u".toList ++ hexDigits 4 h.code

/-- A part between the given quotation marks. -/
def encode (mark : Char) : Piece → List Char
  | char c => Quoted.encodeChar mark c
  | half h => escape h

end Piece

/-- A text with at least one half in it. -/
structure Halved where
  pieces : List Piece
  hasHalf : pieces.any Piece.isHalf = true
  deriving DecidableEq, Repr

/-- The first half in a text, the number of characters in front of it, and how many halves stand there in a row. -/
structure HalfRun where
  first : Half
  start : Nat
  length : Nat
  deriving DecidableEq, Repr

/-- What is said of halves that have no octets. -/
def HalfRun.message (r : HalfRun) : String :=
  "'utf-8' codec can't encode " ++
    (if r.length = 1 then
      "character '" ++ String.ofList (Piece.escape r.first) ++ "' in position " ++ toString r.start
    else "characters in position " ++ toString r.start ++ "-" ++ toString (r.start + r.length - 1)) ++
    ": surrogates not allowed"

/-- The first halves of a text. -/
def Halved.firstRun (h : Halved) : HalfRun where
  first := (h.pieces.findSome? Piece.half?).getD 0
  start := (h.pieces.takeWhile fun p => !p.isHalf).length
  length := ((h.pieces.dropWhile fun p => !p.isHalf).takeWhile Piece.isHalf).length

/-- A text that is one of characters alone, or is not. -/
inductive Raw
  | whole (s : String)
  | halved (h : Halved)
  deriving DecidableEq, Repr

instance : Inhabited Raw := ⟨.whole ""⟩

namespace Raw

def ofPieces (pieces : List Piece) : Raw :=
  if h : pieces.any Piece.isHalf = true then .halved ⟨pieces, h⟩
  else .whole (String.ofList (pieces.filterMap Piece.char?))

def pieces : Raw → List Piece
  | whole s => s.toList.map .char
  | halved h => h.pieces

/-- The text of characters alone, or the halves for which it is none. -/
def encoded : Raw → Except HalfRun String
  | whole s => .ok s
  | halved h => .error h.firstRun

def isEmpty (s : Raw) : Bool := s == .whole ""

/-- Drops white space at both ends. -/
def strip (s : Raw) : Raw := ofPieces (stripChars Piece.isSpace s.pieces)

/-- A text between quotation marks, as it is shown in messages. -/
def quoted : Raw → String
  | whole s => Text.quoted s
  | halved h =>
    let mark := Quoted.mark (h.pieces.filterMap Piece.char?)
    String.ofList (mark :: (h.pieces.flatMap (Piece.encode mark) ++ [mark]))

/-- A text with an escape for each half, as it is written where only characters can be. -/
def shown : Raw → String
  | whole s => s
  | halved h => String.ofList (h.pieces.flatMap fun
    | .char c => [c]
    | .half h => Piece.escape h)

/-- A text with the replacement character for each half. -/
def replaced : Raw → String
  | whole s => s
  | halved h => String.ofList (h.pieces.map fun p => p.char?.getD '\ufffd')

/-- Pieces without a half are the characters among them. -/
theorem map_char_filterMap {pieces : List Piece} (h : ¬ pieces.any Piece.isHalf = true) :
    (pieces.filterMap Piece.char?).map .char = pieces := by
  induction pieces with
  | nil => rfl
  | cons p pieces ih =>
    rw [List.any_cons, Bool.or_eq_true, not_or] at h
    cases p with
    | char c => exact congrArg _ (ih h.2)
    | half other => exact absurd rfl h.1

theorem pieces_ofPieces (pieces : List Piece) : (ofPieces pieces).pieces = pieces := by
  unfold ofPieces
  split
  · rfl
  · rename_i hnone
    rw [Raw.pieces, String.toList_ofList, map_char_filterMap hnone]

theorem strip_strip (s : Raw) : s.strip.strip = s.strip := by
  rw [strip, strip, pieces_ofPieces, stripChars_stripChars]

theorem isEmpty_eq_false_iff {s : Raw} : s.isEmpty = false ↔ s ≠ .whole "" := by
  rw [isEmpty, beq_eq_false_iff_ne]

example : (ofPieces [.char 'a', .half 0, .char ' ']).strip.quoted = "'a\\ud800'" := by decide +kernel

end Raw

end TermSearch.Text
