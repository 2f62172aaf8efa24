/-! Binary floating-point numbers of 64 bits, with reading of decimal numerals, sums and products. A
finite number is `mantissa * 2 ^ exponent` with a mantissa below `2 ^ 53`; every result is rounded to the
nearest such number, a tie going to the even mantissa. All arithmetic is exact, on natural numbers. -/
namespace TermSearch.Decimal

inductive Binary64
  | finite (negative : Bool) (mantissa : Nat) (exponent : Int)
  | infinite (negative : Bool)
  | undefined
  deriving DecidableEq, Repr, Inhabited

/-- The quotient rounded to the nearest natural number, a tie going to the even one. -/
def roundDiv (num den : Nat) : Nat :=
  let q := num / den
  let r := num % den
  if 2 * r < den then q
  else if den < 2 * r then q + 1
  else if q % 2 = 0 then q else q + 1

namespace Binary64

def minExponent : Int := -1074

def maxExponent : Int := 971

/-- The exponent at which a positive quotient has a mantissa of 53 bits, or the least exponent. -/
def exponentFor (num den : Nat) : Int :=
  let guess : Int := (num.log2 : Int) - den.log2 - 52
  let reaches := if 0 ≤ guess then den * Nat.pow 2 (guess.toNat + 52) ≤ num
    else den * Nat.pow 2 52 ≤ num * Nat.pow 2 (-guess).toNat
  max minExponent (if reaches then guess else guess - 1)

/-- The number nearest to a quotient. -/
def ofQuotient (negative : Bool) (num den : Nat) : Binary64 :=
  if num = 0 then .finite negative 0 minExponent
  else
    let e := exponentFor num den
    let m := if 0 ≤ e then roundDiv num (den * Nat.pow 2 e.toNat)
      else roundDiv (num * Nat.pow 2 (-e).toNat) den
    let (m, e) := if m = Nat.pow 2 53 then (Nat.pow 2 52, e + 1) else (m, e)
    if maxExponent < e then .infinite negative else .finite negative m e

/-- The number nearest to `digits * 10 ^ exponent`. Numerals far outside the range are recognised
by their number of digits. -/
def ofDecimal (negative : Bool) (digits : Nat) (exponent : Int) : Binary64 :=
  let magnitude : Int := (toString digits).length + exponent
  if digits = 0 ∨ magnitude < -400 then .finite negative 0 minExponent
  else if 400 < magnitude then .infinite negative
  else if 0 ≤ exponent then ofQuotient negative (digits * Nat.pow 10 exponent.toNat) 1
  else ofQuotient negative digits (Nat.pow 10 (-exponent).toNat)

/-- The number nearest to `mantissa * 2 ^ exponent`. -/
def ofScaled (negative : Bool) (mantissa : Nat) (exponent : Int) : Binary64 :=
  if 0 ≤ exponent then ofQuotient negative (mantissa * Nat.pow 2 exponent.toNat) 1
  else ofQuotient negative mantissa (Nat.pow 2 (-exponent).toNat)

/-- The number nearest to a natural number that is not beyond all finite numbers. -/
def ofNat? (n : Nat) : Option Binary64 :=
  match ofQuotient false n 1 with
  | finite s m e => some (finite s m e)
  | _ => none

/-- The number nearest to a product. -/
def mul : Binary64 → Binary64 → Binary64
  | finite s m e, finite t n f => ofScaled (s != t) (m * n) (e + f)
  | infinite s, finite t n _ => if n = 0 then undefined else infinite (s != t)
  | finite s m _, infinite t => if m = 0 then undefined else infinite (s != t)
  | infinite s, infinite t => infinite (s != t)
  | _, _ => undefined

/-- A mantissa with its sign, as a multiple of `2 ^ base`. -/
def signed (negative : Bool) (mantissa : Nat) (exponent base : Int) : Int :=
  let size : Int := mantissa * Nat.pow 2 (exponent - base).toNat
  if negative then -size else size

/-- The number nearest to a sum. -/
def add : Binary64 → Binary64 → Binary64
  | finite s m e, finite t n f =>
    let base := min e f
    let sum := signed s m e base + signed t n f base
    if sum = 0 then finite (s && t) 0 minExponent else ofScaled (sum < 0) sum.natAbs base
  | infinite s, infinite t => if s = t then infinite s else undefined
  | infinite s, finite .. => infinite s
  | finite .., infinite t => infinite t
  | _, _ => undefined

def negate : Binary64 → Binary64
  | finite negative m e => finite (!negative) m e
  | infinite negative => infinite (!negative)
  | undefined => undefined

/-- Whether a number is zero, of either sign. -/
def isZero : Binary64 → Bool
  | finite _ m _ => m == 0
  | _ => false

/-- The integer that a number equals, if there is one. -/
def toInt? : Binary64 → Option Int
  | finite s m e =>
    let size : Option Nat :=
      if 0 ≤ e then some (m * Nat.pow 2 e.toNat)
      else if m % Nat.pow 2 (-e).toNat = 0 then some (m / Nat.pow 2 (-e).toNat) else none
    size.map fun n => if s then -(n : Int) else n
  | _ => none

example : ofDecimal false 1 (-1) = .finite false 0x1999999999999A (-56) := by decide +kernel
example : add (ofDecimal false 1 (-1)) (ofDecimal false 2 (-1)) =
    .finite false 0x13333333333334 (-54) := by decide +kernel
example : mul (ofDecimal false 1 (-1)) (ofDecimal true 3 0) =
    .finite true 0x13333333333334 (-54) := by decide +kernel
example : ofDecimal true 1 400 = .infinite true := by decide +kernel

end Binary64

end TermSearch.Decimal
