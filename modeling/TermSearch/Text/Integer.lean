import TermSearch.Text.CharSet
import TermSearch.Text.Space
import TermSearch.Text.Split

/-! Integers as people type them: white space around, one sign, digits of any script, and single
underscores between digits. In another base than ten letters are digits too, and the marker of the base
may stand before them. -/
namespace TermSearch.Text

/-- Whether a text starts with a minus sign, and the text without its sign. -/
def takeSign : List Char → Bool × List Char
  | '-' :: rest => (true, rest)
  | '+' :: rest => (false, rest)
  | s => (false, s)

/-- The number of digits with single underscores between them. -/
def digitsOf? (s : List Char) : Option Nat :=
  let groups := splitWhen (· == '_') s
  if groups.all (fun g => !g.isEmpty) then naturalOf? groups.flatten else none

/-- Whether a character may stand around a numeral: white space other than the separating controls. -/
def isMargin (c : Char) : Bool := isSpace c && !('\x1c' ≤ c && c ≤ '\x1f')

def integerOf? (s : String) : Option Int :=
  let (negative, size) := takeSign (stripChars isMargin s.toList)
  (digitsOf? size).map fun n => if negative then -(n : Int) else n

def hexDigit? (c : Char) : Option Nat :=
  if c.isDigit then some (c.toNat - 48)
  else if 'a' ≤ c ∧ c ≤ 'f' then some (c.toNat - 87)
  else if 'A' ≤ c ∧ c ≤ 'F' then some (c.toNat - 55)
  else none

/-- The value of a digit of a base up to 16, of any script. -/
def digitIn? (base : Nat) (c : Char) : Option Nat :=
  ((digitValue? c).or (hexDigit? c)).filter (· < base)

inductive IntegerFault
  | otherForm
  | tooManyDigits (count : Nat)
  deriving DecidableEq, Repr

/-- The letter behind a zero that marks a base. -/
def markerOf? : Nat → Option Char
  | 2 => some 'b'
  | 8 => some 'o'
  | 16 => some 'x'
  | _ => none

/-- A numeral without the marker of its base. -/
def dropMarker (base : Nat) : List Char → List Char
  | '0' :: c :: rest => if markerOf? base = some c.toLower then rest else '0' :: c :: rest
  | s => s

/-- The integer that a text without underscores stands for in a base up to 16. Only in base ten the number
of digits is limited, and the limit goes before what stands behind the digits. -/
def integerIn (base : Nat) (s : List Char) : Except IntegerFault Int :=
  let (negative, size) := takeSign (stripChars isMargin s)
  let numeral := dropMarker base size
  let digits := (numeral.takeWhile fun c => (digitIn? base c).isSome).filterMap (digitIn? base)
  if base = 10 ∧ maxDigits < digits.length then .error (.tooManyDigits digits.length)
  else if digits.isEmpty ∨ digits.length < numeral.length then .error .otherForm
  else
    let n := digits.foldl (fun n d => n * base + d) 0
    .ok (if negative then -(n : Int) else n)

example : integerOf? " -1_0 " = some (-10) := by decide +kernel
example : integerOf? "1__0" = none := by decide +kernel
example : (integerIn 16 "-0XfF ".toList).toOption = some (-255) := by decide +kernel
example : (integerIn 8 "08".toList).toOption = none := by decide +kernel

end TermSearch.Text
