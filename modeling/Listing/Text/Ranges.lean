/-
  Listing/Text/Ranges.lean
  ========================
  **Properties of code points, as lists of ranges.**
-/

namespace Listing.Text

/-- Whether a code point lies in one of the ranges; both ends belong to a range. -/
def inRanges (ranges : List (Nat × Nat)) (n : Nat) : Bool :=
  ranges.any fun (low, high) => low ≤ n && n ≤ high

end Listing.Text
