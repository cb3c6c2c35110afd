/-
  Listing/Number/Layout.lean
  ==========================
  **How the digits of a number are laid out.**

  Two formats are in use.  JSON shows numbers of ordinary size positionally and
  always with a fraction, others with a signed exponent; messages show every
  number positionally and whole numbers without a fraction.  Each is one record
  of decisions, and `Layout.render` carries them out.
-/
import Listing.Number.Shortest

namespace Listing.Number

/-- The decisions of a number format. -/
structure Layout where
  tie : Tie
  /-- Whether a number whose first digit has this power of ten is positional. -/
  positional : Int → Bool
  /-- What follows a whole number written positionally. -/
  wholeEnding : String
  /-- The texts of infinity and of NaN. -/
  infinity : String
  undefinedText : String
  signedInfinity : Bool

/-- JSON: positional from 10^-5 up to 10^16, always with a fraction.  JSON has no
    word for a number that is not finite. -/
def Layout.json : Layout where
  tie := .toEven
  positional e := -5 ≤ e && e < 16
  wholeEnding := ".0"
  infinity := "null"
  undefinedText := "null"
  signedInfinity := false

/-- Messages: always positional, no fraction on a whole number. -/
def Layout.message : Layout where
  tie := .upward
  positional _ := true
  wholeEnding := ""
  infinity := "inf"
  undefinedText := "NaN"
  signedInfinity := true

/-- Digits with a point after the first `before` of them, zeros filling both
    sides where digits are missing. -/
def positionalText (wholeEnding : String) (digits : List Char) (before : Int) : List Char :=
  if before ≤ 0 then
    '0' :: '.' :: List.replicate (-before).toNat '0' ++ digits
  else
    let whole := digits.take before.toNat
    let fraction := digits.drop before.toNat
    let filled := whole ++ List.replicate (before.toNat - whole.length) '0'
    if fraction.isEmpty then filled ++ wholeEnding.toList else filled ++ '.' :: fraction

/-- The first digit, a point before any others, and a signed exponent. -/
def scientificText (digits : List Char) (power : Int) : List Char :=
  let mantissa := match digits with
    | first :: second :: others => first :: '.' :: second :: others
    | _ => digits
  mantissa ++ 'e' :: (if power < 0 then '-' else '+') :: Nat.toDigits 10 power.natAbs

def Layout.absolute (layout : Layout) (x : Binary64) : List Char :=
  if x.isNaN then layout.undefinedText.toList
  else if !x.isFinite then layout.infinity.toList
  else if x.isZero then '0' :: layout.wholeEnding.toList
  else
    let decimal := shortest layout.tie x.magnitude
    let digits := Nat.toDigits 10 decimal.coefficient
    let before := (digits.length : Int) + decimal.exponent
    if layout.positional (before - 1) then positionalText layout.wholeEnding digits before
    else scientificText digits (before - 1)

/-- The text of a number; NaN has no sign. -/
def Layout.render (layout : Layout) (x : Binary64) : List Char :=
  let signed := x.negative && !x.isNaN && (x.isFinite || layout.signedInfinity)
  if signed then '-' :: layout.absolute x else layout.absolute x

end Listing.Number
