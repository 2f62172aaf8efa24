import TermSearch.Decimal.Binary64

/-! Decimal numbers of a limited number of digits. Digits beyond the limit are rounded off, and a tie goes
to the even digit. -/
namespace TermSearch.Decimal

@[simp] theorem roundDiv_one (n : Nat) : roundDiv n 1 = n := by simp [roundDiv, Nat.mod_one]

/-- The number `coefficient / 10 ^ places`. -/
structure Fraction where
  coefficient : Nat
  places : Nat
  deriving DecidableEq, Repr

namespace Fraction

/-- The number of digits beyond a limit. -/
def excess (limit : Nat) (x : Fraction) : Nat := (Nat.toDigits 10 x.coefficient).length - limit

/-- The number with at most so many digits; those before the point are always kept. -/
def keep (limit : Nat) (x : Fraction) : Fraction :=
  let dropped := min (x.excess limit) x.places
  ⟨roundDiv x.coefficient (Nat.pow 10 dropped), x.places - dropped⟩

def times (n : Nat) (x : Fraction) : Fraction := ⟨n * x.coefficient, x.places⟩

def whole (x : Fraction) : Nat := x.coefficient / Nat.pow 10 x.places

theorem keep_of_excess_eq_zero {limit : Nat} {x : Fraction} (h : x.excess limit = 0) :
    x.keep limit = x := by
  simp [keep, h]

example : keep 3 ⟨99950, 5⟩ = ⟨1000, 3⟩ := by decide +kernel
example : keep 3 ⟨12345, 5⟩ = ⟨123, 3⟩ := by decide +kernel

end Fraction

end TermSearch.Decimal
