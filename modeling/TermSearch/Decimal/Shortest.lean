import TermSearch.Decimal.Binary64

/-! The shortest decimal text of a floating-point number: the fewest significant digits that read
back as the number, and of those the nearest to it. -/
namespace TermSearch.Decimal

/-- A decimal number `0.d₁d₂… * 10 ^ point` given by its digits, the first of them nonzero. -/
structure Digits where
  digits : List Char
  point : Int
  deriving Repr, DecidableEq

/-- How a decimal number is laid out: positionally while the point stays within bounds, otherwise
with an exponent of at least two digits. -/
structure Layout where
  leastPoint : Int
  greatestPoint : Int
  undefinedText : String
  infiniteText : String

/-- Numbers are written positionally from `0.0001` to below `10 ^ 16`, always with a fraction. -/
def plainLayout : Layout where
  leastPoint := -3
  greatestPoint := 16
  undefinedText := "nan"
  infiniteText := "inf"

namespace Binary64

/-- The halves of the gaps around `m * 2 ^ e`, as bounds scaled by `2 ^ (2 - e)`: every real strictly
between them reads as the number, and the bounds themselves do when the mantissa is even. -/
def bounds (m : Nat) (e : Int) : Nat × Nat :=
  if m = Nat.pow 2 52 ∧ minExponent < e then (4 * m - 1, 4 * m + 2) else (4 * m - 2, 4 * m + 2)

/-- Whether `candidate * 10 ^ grid` reads back as `m * 2 ^ e`. -/
def readsBack (m : Nat) (e : Int) (candidate : Nat) (grid : Int) : Bool :=
  let (low, high) := bounds m e
  let twos := e - 2
  let tens (k : Int) : Nat := Nat.pow 10 k.toNat
  let pows (k : Int) : Nat := Nat.pow 2 k.toNat
  let value := candidate * tens grid * pows (-twos)
  let scale := pows twos * tens (-grid)
  let (low, high) := (low * scale, high * scale)
  if m % 2 = 0 then low ≤ value && value ≤ high else low < value && value < high

/-- The greatest `k` with `10 ^ k ≤ num / den`, for a positive quotient. -/
def decimalExponent (num den : Nat) : Int :=
  let guess : Int := (toString num).length - (toString den).length
  let reaches := if 0 ≤ guess then den * Nat.pow 10 guess.toNat ≤ num
    else den ≤ num * Nat.pow 10 (-guess).toNat
  if reaches then guess else guess - 1

/-- The point of the decimal grid with `count` digits that reads back, the nearer of two. -/
def onGrid (m : Nat) (e : Int) (num den : Nat) (top : Int) (count : Nat) : Option (Nat × Int) :=
  let grid := top + 1 - count
  let scaledNum := num * Nat.pow 10 (-grid).toNat
  let scaledDen := den * Nat.pow 10 grid.toNat
  let below := scaledNum / scaledDen
  let nearest := roundDiv scaledNum scaledDen
  let farther := if nearest = below then below + 1 else below
  if readsBack m e nearest grid then some (nearest, grid)
  else if readsBack m e farther grid then some (farther, grid)
  else none

/-- The digits of a positive number: the first grid with a point that reads back. -/
def shortestDigits (m : Nat) (e : Int) : Digits :=
  let num := m * Nat.pow 2 e.toNat
  let den := Nat.pow 2 (-e).toNat
  let top := decimalExponent num den
  let found := ((List.range 17).map (· + 1)).findSome? (onGrid m e num den top)
  let (value, grid) := found.getD (0, 0)
  let text := (toString value).toList
  let kept := (text.reverse.dropWhile (· == '0')).reverse
  ⟨kept, grid + text.length⟩

end Binary64

namespace Layout

def positive (layout : Layout) (d : Digits) : List Char :=
  let count : Int := d.digits.length
  if layout.leastPoint ≤ d.point ∧ d.point ≤ layout.greatestPoint then
    if d.point ≤ 0 then "0.".toList ++ List.replicate (-d.point).toNat '0' ++ d.digits
    else if count ≤ d.point then
      d.digits ++ List.replicate (d.point - count).toNat '0' ++ ".0".toList
    else d.digits.take d.point.toNat ++ '.' :: d.digits.drop d.point.toNat
  else
    let exponent := d.point - 1
    let size := (toString exponent.natAbs).toList
    let size := if size.length < 2 then '0' :: size else size
    let mantissa := match d.digits with
      | first :: second :: rest => first :: '.' :: second :: rest
      | digits => digits
    mantissa ++ 'e' :: (if exponent < 0 then '-' else '+') :: size

def write (layout : Layout) : Binary64 → String
  | .undefined => layout.undefinedText
  | .infinite negative => (if negative then "-" else "") ++ layout.infiniteText
  | .finite negative m e =>
    let size := if m = 0 then "0.0" else String.ofList (layout.positive (Binary64.shortestDigits m e))
    (if negative then "-" else "") ++ size

end Layout

def Binary64.text (x : Binary64) : String := plainLayout.write x

example : (Binary64.ofDecimal false 1 (-1)).text = "0.1" := by decide +kernel
example : (Binary64.ofDecimal true 0 0).text = "-0.0" := by decide +kernel

end TermSearch.Decimal
