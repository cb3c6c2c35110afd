/-
  Listing/Text/Truth.lean
  =======================
  **Truth values as text.**
-/

namespace Listing.Text

/-- The truth value that a text denotes, by its word or by a digit. -/
def truthValue? : String → Option Bool
  | "true" | "1" => some true
  | "false" | "0" => some false
  | _ => none

def truthText (b : Bool) : String := if b then "true" else "false"

theorem truthValue?_truthText (b : Bool) : truthValue? (truthText b) = some b := by
  cases b <;> rfl

end Listing.Text
