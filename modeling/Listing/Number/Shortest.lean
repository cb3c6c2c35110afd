/-
  Listing/Number/Shortest.lean
  ============================
  **The fewest digits that identify a number.**

  A decimal identifies a number when it lies in the interval of reals that round
  to it.  For 1, 2, … 17 digits the two neighbours of the exact value on that
  decimal grid are tested against the interval; the first grid with a hit wins,
  of two hits the nearer one.  If a point of a grid lies in the interval so does
  one of the value's two neighbours on it, hence no shorter decimal exists.

  All arithmetic is exact, on a value written as a quotient `num / den`.
-/
import Listing.Number.Binary64

namespace Listing.Number

inductive Tie where
  | toEven
  | upward
deriving DecidableEq, Repr

/-- A decimal: `coefficient · 10^exponent`. -/
structure Decimal where
  coefficient : Nat
  exponent : Int
deriving DecidableEq, Repr

/-- A finite positive number as a quotient, with the significand whose neighbours
    bound the rounding interval. -/
structure Exact where
  num : Nat
  den : Nat
  significand : Nat
  /-- The number below is only half as far away as the number above. -/
  narrowBelow : Bool

def Exact.ofMagnitude (magnitude : Nat) : Exact :=
  let field := magnitude / Binary64.binade
  let fraction := magnitude % Binary64.binade
  let significand := if field = 0 then fraction else Binary64.binade + fraction
  let power := max field 1
  { num := if 1075 ≤ power then significand <<< (power - 1075) else significand
    den := if 1075 ≤ power then 1 else 1 <<< (1075 - power)
    significand := significand
    narrowBelow := fraction == 0 && 1 < field }

def digitCount (n : Nat) : Nat := (Nat.toDigits 10 n).length

/-- The least `k` with `num / den < 10^k`. -/
def Exact.scale (x : Exact) : Int :=
  if x.den ≤ x.num then digitCount (x.num / x.den)
  else 1 - (digitCount ((x.den - 1) / x.num) : Int)

/-- Numerator and denominator of the value in units of `10^g`. -/
def Exact.inUnits (x : Exact) (g : Int) : Nat × Nat :=
  if 0 ≤ g then (x.num, x.den * Nat.pow 10 g.toNat)
  else (x.num * Nat.pow 10 (-g).toNat, x.den)

/-- Whether `c` units round to the number whose value is `a / b` units.  The
    interval reaches half a significand step up and down, a quarter down when the
    number below is nearer; its ends belong to it when the significand is even. -/
def Exact.identifies (x : Exact) (a b c : Nat) : Bool :=
  let here := 4 * x.significand * (c * b)
  let low := a * (4 * x.significand - if x.narrowBelow then 1 else 2)
  let high := a * (4 * x.significand + 2)
  if x.significand % 2 = 0 then low ≤ here && here ≤ high else low < here && here < high

/-- The better of the value's two neighbours on the grid of `10^g`, if one of
    them identifies the number. -/
def Exact.onGrid? (x : Exact) (tie : Tie) (g : Int) : Option Nat :=
  let (a, b) := x.inUnits g
  let low := a / b
  let high := low + 1
  match x.identifies a b low, x.identifies a b high with
  | false, false => none
  | true, false => some low
  | false, true => some high
  | true, true =>
    let middle := (2 * low + 1) * b
    if 2 * a < middle then some low
    else if middle < 2 * a then some high
    else
      match tie with
      | .toEven => some (if low % 2 = 0 then low else high)
      | .upward => some high

/-- Move the trailing zeros of the coefficient into the exponent. -/
def Decimal.strip (fuel : Nat) (d : Decimal) : Decimal :=
  match fuel with
  | 0 => d
  | fuel + 1 =>
    if d.coefficient % 10 = 0 then strip fuel ⟨d.coefficient / 10, d.exponent + 1⟩ else d

/-- The shortest decimal that identifies a positive finite magnitude.  Seventeen
    digits always do. -/
def shortest (tie : Tie) (magnitude : Nat) : Decimal :=
  let x := Exact.ofMagnitude magnitude
  let found := (List.range 17).findSome? fun (n : Nat) =>
    let g := x.scale - (n : Int) - 1
    (x.onGrid? tie g).map fun c => Decimal.mk c g
  (found.getD ⟨x.num / x.den, 0⟩).strip 18

end Listing.Number
