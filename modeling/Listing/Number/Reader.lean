/-
  Listing/Number/Reader.lean
  ==========================
  **Reading a number from text.**

  The grammar: an optional sign, then either one of the words `inf`, `infinity`
  and `nan` in any letter case, or digits with an optional point and an optional
  exponent.  The digits may be missing on one side of the point but not on both;
  an exponent needs a digit.  Every text of the grammar has a value, because a
  number that is too large becomes infinity.
-/
import Listing.Number.Rounding

namespace Listing.Number

def spanDigits (cs : List Char) : List Char × List Char :=
  (cs.takeWhile Char.isDigit, cs.dropWhile Char.isDigit)

/-- The exponent part: nothing, or a mark, an optional sign and digits. -/
def exponent? : List Char → Option Int
  | [] => some 0
  | mark :: rest =>
    if mark = 'e' ∨ mark = 'E' then
      let (negative, digits) := match rest with
        | '-' :: ds => (true, ds)
        | '+' :: ds => (false, ds)
        | ds => (false, ds)
      if digits ≠ [] ∧ digits.all Char.isDigit then
        let n : Int := Nat.ofDigitChars 10 digits 0
        some (if negative then -n else n)
      else none
    else none

def unsignedDecimal? (cs : List Char) : Option Nat :=
  let (whole, afterWhole) := spanDigits cs
  let (fraction, afterFraction) := match afterWhole with
    | '.' :: rest => spanDigits rest
    | _ => ([], afterWhole)
  if whole = [] ∧ fraction = [] then none
  else
    (exponent? afterFraction).map fun power =>
      Binary64.decimalMagnitude (Nat.ofDigitChars 10 (whole ++ fraction) 0)
        (power - fraction.length)

/-- The words for numbers that are not finite; only ASCII letters have case. -/
def word? (cs : List Char) : Option Nat :=
  let lower := cs.map Char.toLower
  if lower = "inf".toList ∨ lower = "infinity".toList then some Binary64.infinite
  else if lower = "nan".toList then some Binary64.undefinedResult
  else none

def magnitude? (cs : List Char) : Option Nat := (word? cs).or (unsignedDecimal? cs)

/-- Read a number; a sign applies to every form. -/
def Binary64.ofText? : List Char → Option Binary64
  | '-' :: rest => (magnitude? rest).map (Binary64.mk true)
  | '+' :: rest => (magnitude? rest).map (Binary64.mk false)
  | cs => (magnitude? cs).map (Binary64.mk false)

end Listing.Number
