/-
  Listing/Number/Scaling.lean
  ===========================
  **Scaling by a power of ten, rounding at every step.**

  `scaled` reaches a decimal in floating-point steps: the digits and the power of
  ten are numbers already, and their product or quotient is rounded once more.
  Up to 2^53 and up to 10^22 both operands are exact, so the answer is the nearest
  number; beyond that it may be one of the numbers beside it.
-/
import Listing.Number.Rounding
import Listing.Number.Shortest

namespace Listing.Number

/-! ### One step -/

/-- The rounded product of two finite magnitudes. -/
def product (x y : Nat) : Nat :=
  let a := Exact.ofMagnitude x
  let b := Exact.ofMagnitude y
  nearest (a.num * b.num) (a.den * b.den)

/-- The rounded quotient of two finite magnitudes; the second is not zero. -/
def quotient (x y : Nat) : Nat :=
  let a := Exact.ofMagnitude x
  let b := Exact.ofMagnitude y
  nearest (a.num * b.den) (a.den * b.num)

def powerOfTen (k : Nat) : Nat := nearest (Nat.pow 10 k) 1

/-! ### All steps -/

/-- The largest `k` for which `10^k` is finite. -/
def largestPower : Nat := 308

/-- The magnitude of a word times `10^exponent`.  No finite power lies beyond
    `10^308`, so a larger one gives infinity, and a smaller one is divided by in
    two steps; two such steps leave nothing of a word. -/
def scaled (magnitude : Nat) (exponent : Int) : Nat :=
  if magnitude = 0 then 0
  else if largestPower < exponent then Binary64.infinite
  else if 0 ≤ exponent then product magnitude (powerOfTen exponent.toNat)
  else if exponent.natAbs ≤ largestPower then quotient magnitude (powerOfTen exponent.natAbs)
  else if exponent.natAbs ≤ 2 * largestPower then
    quotient (quotient magnitude (powerOfTen largestPower))
      (powerOfTen (exponent.natAbs - largestPower))
  else 0

end Listing.Number
