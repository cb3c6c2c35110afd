/-
  Listing/Source.lean
  ===================
  **Sources of items.**

  A source is asked for one listing: filters and sort keys accumulate on it, then
  it is asked for a page.  Filters are combined by *and*; the first sort key is
  the primary one.
-/
import Listing.Action
import Listing.Filter.Kind

namespace Listing

/-- One page of items, and how many items pass every filter. -/
structure Page (ι : Type) where
  items : List ι
  total : Nat

/-- A state of type `σ` that can be filtered, sorted and paged, with items of type
    `ι`. -/
class Source (σ : Type) (ι : outParam Type) where
  /-- The name of the backend in the log and in errors. -/
  backend : String
  addFilter : (field : String) → ValueKind → Operator → (params : List String) → Action σ Unit
  addSort : (field : String) → Direction → Action σ Unit
  /-- Fetch the page of at most `limit` items from position `offset` on. -/
  fetch : (limit offset : Nat) → Action σ (Page ι)

end Listing
