/-
  Listing/Text/Lowercase.lean
  ===========================
  **Full Unicode lowercasing.**

  Every character is replaced by its lowercase form, which is one character for
  all but the dotted capital I (its form is an i and a combining dot).  The
  capital sigma depends on its place: at the end of a word it becomes the final
  sigma.  A place is the end of a word when, passing over case-ignorable
  characters, a cased character stands before it and none stands after it.
-/
import Listing.Text.CaseTable
import Listing.Text.Ranges

namespace Listing.Text

def isCased (c : Char) : Bool := inRanges casedRanges c.toNat

def isCaseIgnorable (c : Char) : Bool := inRanges caseIgnorableRanges c.toNat

/-- Whether the first character that is not case-ignorable is cased. -/
def meetsCased : List Char → Bool
  | [] => false
  | c :: rest => if isCaseIgnorable c then meetsCased rest else isCased c

/-- The capital sigma, whose lowercase form depends on its place. -/
def capitalSigma : Char := 'Σ'

def lowerChar (c : Char) : List Char :=
  if c = 'İ' then ['i', '\u0307']
  else
    match lowercaseRuns.findSome? (·.lower? c.toNat) with
    | some n => [Char.ofNat n]
    | none => [c]

/-- Lowercase a text; `before` holds the characters already passed, last first. -/
def lowerFrom (before : List Char) : List Char → List Char
  | [] => []
  | c :: rest =>
    if c = capitalSigma then
      (if meetsCased before && !meetsCased rest then 'ς' else 'σ') :: lowerFrom (c :: before) rest
    else lowerChar c ++ lowerFrom (c :: before) rest

def lowercase (cs : List Char) : List Char := lowerFrom [] cs

end Listing.Text
