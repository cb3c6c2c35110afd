/-
  Listing/Number/Binary64.lean
  ============================
  **64-bit binary floating-point numbers.**

  A number is a sign and a *magnitude*, the pattern of its other 63 bits read as
  a natural number.  Magnitudes are ordered as the absolute values are, so both
  orders on numbers are orders on integers:

  * the total order puts every number somewhere, −0 below 0 and a NaN outside
    the infinities, on the side of its sign;
  * the arithmetic order has one zero and leaves NaN incomparable.
-/

namespace Listing.Number

/-- A sign and the pattern of the other 63 bits. -/
structure Binary64 where
  negative : Bool
  magnitude : Nat
deriving DecidableEq, Repr

namespace Binary64

/-! ### Special patterns -/

/-- How many magnitudes share an exponent: two to the power 52. -/
def binade : Nat := 4503599627370496

/-- The magnitude of the infinities; what lies above is not a number. -/
def infinite : Nat := 2047 * binade

/-- The magnitude of the ordinary NaN. -/
def undefinedResult : Nat := infinite + binade / 2

def isNaN (x : Binary64) : Bool := infinite < x.magnitude

def isFinite (x : Binary64) : Bool := x.magnitude < infinite

def isZero (x : Binary64) : Bool := x.magnitude == 0

/-! ### The total order -/

/-- The place of a number in the total order. -/
def place (x : Binary64) : Int :=
  if x.negative then -(x.magnitude : Int) - 1 else x.magnitude

def totalOrder (x y : Binary64) : Ordering := compare x.place y.place

theorem place_inj {x y : Binary64} (h : x.place = y.place) : x = y := by
  obtain ⟨nx, mx⟩ := x
  obtain ⟨ny, my⟩ := y
  cases nx <;> cases ny <;> simp only [place, Bool.false_eq_true, if_false, if_true] at h
  · simp; omega
  · omega
  · omega
  · simp; omega

/-! ### The arithmetic order -/

/-- The place of a number that is not NaN in the arithmetic order: both zeros are
    at 0. -/
def signedMagnitude (x : Binary64) : Int :=
  if x.negative then -(x.magnitude : Int) else x.magnitude

/-- Strict comparison; false when either side is NaN. -/
def below (x y : Binary64) : Bool :=
  !x.isNaN && !y.isNaN && x.signedMagnitude < y.signedMagnitude

end Binary64

end Listing.Number
