/-
  Listing/Choice.lean
  ===================
  **Choices that a client writes as a word.**

  The direction of a sort key and the amount of detail of the items.  Words are
  compared exactly, in lowercase.
-/

namespace Listing

/-! ### Sort direction -/

inductive Direction where
  | asc
  | desc
deriving DecidableEq, Repr

namespace Direction

def name : Direction → String
  | .asc => "asc"
  | .desc => "desc"

def ofName? : String → Option Direction
  | "asc" => some .asc
  | "desc" => some .desc
  | _ => none

def unknownText (word : String) : String := s!"invalid sort direction '{word}'"

def orient : Direction → Ordering → Ordering
  | .asc, o => o
  | .desc, o => o.swap

end Direction

/-! ### Amount of detail -/

/-- How much of an item is shown. -/
inductive Detail where
  | all
  | full
  | brief
deriving DecidableEq, Repr

namespace Detail

def name : Detail → String
  | .all => "all"
  | .full => "full"
  | .brief => "brief"

def ofName? : String → Option Detail
  | "all" => some .all
  | "full" => some .full
  | "brief" => some .brief
  | _ => none

def unknownText (word : String) : String := s!"invalid fields mode '{word}'"

end Detail

end Listing
