/-
  Listing/Filter/Kind.lean
  ========================
  **The kind of values that a filter compares with.**
-/

namespace Listing

inductive ValueKind where
  | text
  | integer
  | float
  | boolean
deriving DecidableEq, Repr

namespace ValueKind

/-- The validation rule that every parameter of the kind must pass, if any. -/
def rule? : ValueKind → Option String
  | .text => none
  | .integer => some "integer"
  | .float => some "numeric"
  | .boolean => some "boolean"

def title : ValueKind → String
  | .text => "Text"
  | .integer => "Integer"
  | .float => "Float"
  | .boolean => "Boolean"

end ValueKind

end Listing
