/-
  Listing/Number/Rounding.lean
  ============================
  **The nearest 64-bit number to an exact quotient.**

  `nearest n d` is the magnitude of the number nearest to `n / d`, a half going
  to the even neighbour and everything beyond the largest finite number to
  infinity.  It counts in units of 2^-1074, the smallest positive number: the
  quotient is rounded to 53 significant bits, or to whole units when it is
  smaller than that.  With `k` bits dropped the rounded significand `m` lies in
  the binade of exponent `k`, and its pattern is `k · 2^52 + m`; a significand
  that rounds up to 2^53 carries into the exponent by the same sum.
-/
import Listing.Number.Binary64

namespace Listing.Number

/-! ### Division to the nearest integer -/

/-- The integer nearest to `n / d`; a half goes to the even neighbour. -/
def roundDiv (n d : Nat) : Nat :=
  let quotient := n / d
  let twice := 2 * (n % d)
  if twice < d then quotient
  else if d < twice then quotient + 1
  else quotient + quotient % 2

/-- Rounding leaves at most half a divisor. -/
theorem roundDiv_near {n d : Nat} (hd : 0 < d) :
    2 * (d * roundDiv n d) ≤ 2 * n + d ∧ 2 * n ≤ 2 * (d * roundDiv n d) + d := by
  have hn := Nat.div_add_mod n d
  have hr := Nat.mod_lt n hd
  simp only [roundDiv]
  generalize n / d = q at *
  generalize n % d = r at *
  split
  · omega
  · split
    · rw [Nat.mul_add]; omega
    · rcases Nat.mod_two_eq_zero_or_one q with h | h <;> rw [h]
      · rw [Nat.add_zero]; omega
      · rw [Nat.mul_add]; omega

/-! ### The nearest number -/

/-- The magnitude nearest to `n / d`. -/
def nearest (n d : Nat) : Nat :=
  let units := n <<< 1074
  let dropped := Nat.log2 (units / d) - 52
  min Binary64.infinite (dropped * Binary64.binade + roundDiv units (d <<< dropped))

namespace Binary64

def ofNat (n : Nat) : Binary64 := ⟨false, nearest n 1⟩

/-- The number nearest to an integer; zero is positive. -/
def ofInt (n : Int) : Binary64 := ⟨n < 0, nearest n.natAbs 1⟩

/-- The magnitude nearest to `coefficient · 10^exponent`.  Beyond 10^310 the
    answer is infinity, below 10^-330 it is zero, and the power is not computed. -/
def decimalMagnitude (coefficient : Nat) (exponent : Int) : Nat :=
  let size := ((Nat.toDigits 10 coefficient).length : Int) + exponent
  if coefficient = 0 then 0
  else if 310 < size then infinite
  else if size < -330 then 0
  else if 0 ≤ exponent then nearest (coefficient * Nat.pow 10 exponent.toNat) 1
  else nearest coefficient (Nat.pow 10 (-exponent).toNat)

end Binary64

end Listing.Number
