/-! Sets of characters, given as closed intervals of code points, and decimal digits with other signs of
single digits. Every script's decimal digits stand in a row from zero to nine; raised, lowered and framed
digits are signs of digits, but no numeral is made of them. -/
namespace TermSearch

/-- A set of characters as closed intervals of code points. -/
structure CharSet where
  intervals : List (Nat × Nat)

namespace CharSet

/-- Whether a character lies in one of the intervals. -/
def contains (s : CharSet) (c : Char) : Bool :=
  s.intervals.any fun i => decide (i.1 ≤ c.toNat) && decide (c.toNat ≤ i.2)

theorem contains_iff {s : CharSet} {c : Char} :
    s.contains c ↔ ∃ i ∈ s.intervals, i.1 ≤ c.toNat ∧ c.toNat ≤ i.2 := by
  simp [contains]

end CharSet

end TermSearch

namespace TermSearch.Text

/-- The zeros of all scripts. -/
def zeros : List Nat := [
   0x30, 0x660, 0x6F0, 0x7C0, 0x966, 0x9E6, 0xA66, 0xAE6, 0xB66, 0xBE6,
   0xC66, 0xCE6, 0xD66, 0xDE6, 0xE50, 0xED0, 0xF20, 0x1040, 0x1090, 0x17E0,
   0x1810, 0x1946, 0x19D0, 0x1A80, 0x1A90, 0x1B50, 0x1BB0, 0x1C40, 0x1C50, 0xA620,
   0xA8D0, 0xA900, 0xA9D0, 0xA9F0, 0xAA50, 0xABF0, 0xFF10, 0x104A0, 0x10D30, 0x11066,
   0x110F0, 0x11136, 0x111D0, 0x112F0, 0x11450, 0x114D0, 0x11650, 0x116C0, 0x11730, 0x118E0,
   0x11950, 0x11C50, 0x11D50, 0x11DA0, 0x16A60, 0x16AC0, 0x16B50, 0x1D7CE, 0x1D7D8, 0x1D7E2,
   0x1D7EC, 0x1D7F6, 0x1E140, 0x1E2F0, 0x1E950, 0x1FBF0]

/-- The value of a decimal digit of any script. -/
def digitValue? (c : Char) : Option Nat :=
  (zeros.find? fun z => decide (z ≤ c.toNat) && decide (c.toNat ≤ z + 9)).map (c.toNat - ·)

def isDigit (c : Char) : Bool := (digitValue? c).isSome

/-- The signs of single digits of which no numeral is made. -/
def digitSigns : CharSet where
  intervals := [
    (0xB2, 0xB3), (0xB9, 0xB9), (0x1369, 0x1371), (0x19DA, 0x19DA), (0x2070, 0x2070),
    (0x2074, 0x2079), (0x2080, 0x2089), (0x2460, 0x2468), (0x2474, 0x247C), (0x2488, 0x2490),
    (0x24EA, 0x24EA), (0x24F5, 0x24FD), (0x24FF, 0x24FF), (0x2776, 0x277E), (0x2780, 0x2788),
    (0x278A, 0x2792), (0x10A40, 0x10A43), (0x10E60, 0x10E68), (0x11052, 0x1105A),
    (0x1F100, 0x1F10A)]

/-- Whether a character is a decimal digit or another sign of a digit. -/
def isDigitSign (c : Char) : Bool := isDigit c || digitSigns.contains c

/-- The number that digits stand for. -/
def numberOf (digits : List Char) : Nat :=
  digits.foldl (fun n d => n * 10 + (digitValue? d).getD 0) 0

/-- The number that a text of digits stands for. -/
def numberOf? (digits : List Char) : Option Nat :=
  if !digits.isEmpty && digits.all isDigit then some (numberOf digits) else none

/-- The greatest number of digits that are read as an integer. -/
def maxDigits : Nat := 4300

/-- What is said of an integer with too many digits. -/
def tooManyDigitsMessage (count : Nat) : String :=
  "Exceeds the limit (" ++ toString maxDigits ++ " digits) for integer string conversion: value has " ++
    toString count ++ " digits; use sys.set_int_max_str_digits() to increase the limit"

/-- The integer that a text of not too many digits stands for. -/
def naturalOf? (digits : List Char) : Option Nat :=
  if digits.length ≤ maxDigits then numberOf? digits else none

example : numberOf? "２０24".toList = some 2024 := by decide +kernel

end TermSearch.Text
