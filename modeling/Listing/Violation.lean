/-
  Listing/Violation.lean
  ======================
  **What can be wrong with a request.**

  A violation is a complaint about one field, a parameter of the request in
  dotted form (`filters.content.0`).  A complaint is a cause; `Complaint.message`
  words it.
-/
import Listing.Filter.Operator
import Listing.Number.Layout

namespace Listing

open Number (Binary64 Layout)

/-! ### Complaints -/

/-- What a range rule measured: the value of a number, or the length of a text. -/
inductive Measure where
  | value
  | length
deriving DecidableEq, Repr

/-- The unit that follows a bound in a message. -/
def Measure.unit : Measure → String
  | .value => ""
  | .length => " characters"

inductive Complaint where
  | missing
  | notInteger
  | notNumeric
  | notBoolean
  | tooSmall (bound : Binary64) (measure : Measure)
  | tooLarge (bound : Binary64) (measure : Measure)
  /-- A range rule was written without a number. -/
  | boundNotNumeric (rule : String)
  | notListed
  /-- A single value was given in brackets. -/
  | notSingle
  /-- A bracketed parameter was given as a single value, or with broken brackets. -/
  | notBracketed
  | unknownFilter (name : String)
  | unknownOperator (name : String)
  | operatorNotAllowed (op : Operator) (filter : String)
  /-- The token has the wrong number of parameters; no expectation when its
      operator is unknown. -/
  | parameterCount (token : String) (expected : Option Arity) (count : Nat)
  | unknownSort (name : String)
  | badDirection (sort : String)
  /-- The words of a rule from outside the library. -/
  | stated (message : String)
deriving DecidableEq, Repr

namespace Complaint

def boundText (bound : Binary64) (measure : Measure) : String :=
  String.ofList (Layout.message.render bound) ++ measure.unit

def message (field : String) : Complaint → String
  | .missing => s!"The {field} field is required."
  | .notInteger => s!"The {field} must be an integer."
  | .notNumeric => s!"The {field} must be a number."
  | .notBoolean => s!"The {field} field must be true or false."
  | .tooSmall bound measure =>
    s!"The {field} must be at least " ++ boundText bound measure ++ "."
  | .tooLarge bound measure =>
    s!"The {field} may not be greater than " ++ boundText bound measure ++ "."
  | .boundNotNumeric rule => s!"The {rule} rule needs a numeric argument."
  | .notListed => s!"The selected {field} is invalid."
  | .notSingle => s!"The {field} must be a single value."
  | .notBracketed => s!"The {field} must be an array."
  | .unknownFilter name => s!"The filter type '{name}' is not supported."
  | .unknownOperator name => s!"The filter operator '{name}' is not supported."
  | .operatorNotAllowed op filter =>
    "The filter operator '" ++ op.name ++ s!"' is not allowed for '{filter}'."
  | .parameterCount token expected count =>
    let expectation := (expected.map Arity.describe).getD "a known operator"
    s!"The filter '{token}' expects {expectation}, got {count}."
  | .unknownSort name => s!"The sort type '{name}' is not supported."
  | .badDirection sort => s!"The sort direction for '{sort}' must be asc or desc."
  | .stated message => message

end Complaint

/-! ### Violations -/

structure Violation where
  field : String
  complaint : Complaint
deriving DecidableEq, Repr

namespace Violation

def message (violation : Violation) : String := violation.complaint.message violation.field

def line (violation : Violation) : String := violation.field ++ ": " ++ violation.message

/-- A list of violations in words, one a line under a heading with their number. -/
def report (violations : List Violation) : String :=
  let count := violations.length
  s!"Validation failed with {count} error(s):"
    ++ String.join (violations.map fun violation => "\n  - " ++ violation.line)

end Violation

end Listing
