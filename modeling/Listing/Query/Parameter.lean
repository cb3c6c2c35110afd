/-
  Listing/Query/Parameter.lean
  ============================
  **The single-valued parameters of a request.**

  Five parameters take one value each.  Every one has a key and a rule string; the
  rules depend on the page sizes of the listing.
-/
import Listing.Config.Basic
import Listing.Validation.Validator

namespace Listing

inductive Parameter where
  | limit
  | offset
  | page
  | pageSize
  | fields
deriving DecidableEq, Repr

namespace Parameter

def all : List Parameter := [.limit, .offset, .page, .pageSize, .fields]

theorem mem_all (parameter : Parameter) : parameter ∈ all := by cases parameter <;> decide

def key : Parameter → String
  | .limit => "limit"
  | .offset => "offset"
  | .page => "page"
  | .pageSize => "page_size"
  | .fields => "fields"

def sizeRules (sizes : PageSizes) : String :=
  let maximum := sizes.maximum
  s!"integer|min:1|max:{maximum}"

def offsetRules : String :=
  let maximum := maxOffset
  s!"integer|min:0|max:{maximum}"

def rules (sizes : PageSizes) : Parameter → String
  | .limit | .pageSize => sizeRules sizes
  | .offset | .page => offsetRules
  | .fields => "in:all,full,brief"

/-- A complaint when the parameter is given in brackets only. -/
def shapeViolations (request : Request) (parameter : Parameter) : List Violation :=
  if (request.get? parameter.key).isNone && request.has parameter.key then
    [⟨parameter.key, .notSingle⟩]
  else []

def valueViolations (validator : Validator) (sizes : PageSizes) (request : Request)
    (parameter : Parameter) : Except UnknownRule (List Violation) :=
  match request.get? parameter.key with
  | none => .ok []
  | some value =>
    (validator.check parameter.key value (parameter.rules sizes)).map Option.toList

def number? (request : Request) (parameter : Parameter) : Option Nat :=
  (request.get? parameter.key).bind fun value => Text.unsigned? (Text.trim value.toList)

end Parameter

end Listing
