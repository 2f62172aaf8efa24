import TermSearch.Decimal.Binary64
import TermSearch.Text.Integer

/-! Floating-point numbers as people type them: white space around, one sign, digits of any script with at
most one point, and a power of ten. Infinite and undefined numbers are written as words. -/
namespace TermSearch.Decimal.Binary64

/-- The words for an infinite number, without regard to case. -/
def infiniteWords : List String := ["inf", "infinity"]

/-- The word for an undefined number, without regard to case. -/
def undefinedWord : String := "nan"

/-- The power of ten at the end of a numeral: none, or a letter, a sign that may be missing, and digits. -/
def powerOf? : List Char → Option Int
  | [] => some 0
  | e :: rest =>
    let (negative, digits) := Text.takeSign rest
    if e = 'e' ∨ e = 'E' then
      (Text.numberOf? digits).map fun n => if negative then -(n : Int) else n
    else none

/-- The floating-point number that a text without underscores stands for. -/
def ofText? (s : List Char) : Option Binary64 :=
  let (negative, size) := Text.takeSign (Text.stripChars Text.isMargin s)
  let word := String.ofList (size.map Char.toLower)
  if infiniteWords.contains word then some (.infinite negative)
  else if word = undefinedWord then some .undefined
  else
    let whole := size.takeWhile Text.isDigit
    let rest := size.dropWhile Text.isDigit
    let afterPoint := if rest.head? = some '.' then rest.drop 1 else []
    let fraction := afterPoint.takeWhile Text.isDigit
    let tail := if rest.head? = some '.' then afterPoint.dropWhile Text.isDigit else rest
    if whole.isEmpty && fraction.isEmpty then none
    else
      (powerOf? tail).map fun power =>
        .ofDecimal negative (Text.numberOf (whole ++ fraction)) (power - fraction.length)

example : ofText? " +1.5E1 ".toList = some (.ofDecimal false 15 0) := by decide +kernel
example : ofText? "-Infinity".toList = some (.infinite true) := by decide +kernel
example : ofText? ".e1".toList = none := by decide +kernel

end TermSearch.Decimal.Binary64
