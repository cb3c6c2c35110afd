/-
  Listing/Filter/Param.lean
  =========================
  **Parameters of an operator that is about to be applied.**

  A checked token has as many parameters as its operator takes.  A backend can
  also be asked directly, so it looks each parameter up and reports a missing
  one.
-/
import Listing.Error

namespace Listing

def missingParameter (op : Operator) (params : List String) : Error :=
  .internal .applyFilter (some (.missingParameter op params.length))

def paramAt (op : Operator) (params : List String) (index : Nat) : Except Error String :=
  match params[index]? with
  | some param => .ok param
  | none => .error (missingParameter op params)

/-- The parameters of an operator that takes one or more. -/
def someParams (op : Operator) (params : List String) : Except Error (List String) :=
  if params.isEmpty then .error (missingParameter op params) else .ok params

end Listing
