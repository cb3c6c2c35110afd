/-
  Listing/Error.lean
  ==================
  **What can go wrong with a listing.**

  An error is a cause.  It is worded three times: `description` says everything
  to the developer who holds the value, `userMessage` is all that a client may
  learn, and the log (see `Listing.Event`) shows the details that the client is
  not shown.
-/
import Listing.Filter.Kind
import Listing.Text.Quoted
import Listing.Violation

namespace Listing

/-! ### Mistakes in a configuration -/

/-- The kinds of names that must be unique in a configuration. -/
inductive NameKind where
  | filterType
  | sortType
  | defaultSort
deriving DecidableEq, Repr

def NameKind.title : NameKind → String
  | .filterType => "filter type"
  | .sortType => "sort type"
  | .defaultSort => "default sort"

inductive ConfigFault where
  | duplicateName (kind : NameKind) (name : String)
  | unknownDefaultSort (name : String)
  | pageSizes (default maximum : Nat)
  | unknownRule (name : String)
  /-- In the words of a part from outside the library. -/
  | stated (message : String)
deriving DecidableEq, Repr

def ConfigFault.message : ConfigFault → String
  | .duplicateName kind name => "duplicate " ++ kind.title ++ s!" '{name}'"
  | .unknownDefaultSort name => s!"default sort '{name}' is not a configured sort type"
  | .pageSizes default maximum =>
    s!"default_per_page ({default}) must be between 1 and max_per_page ({maximum})"
  | .unknownRule name => s!"unknown validation rule '{name}'"
  | .stated message => message

/-! ### Failures of the parts -/

inductive DatabaseFault where
  | custom (message : String)
  /-- The database had no further answer. -/
  | noAnswer
  /-- A row of the answer has no value in a column that must have one. -/
  | missingValue (column : String)
deriving DecidableEq, Repr

namespace DatabaseFault

def detail : DatabaseFault → String
  | .custom message => message
  | .noAnswer => "`query_results` buffer is empty."
  | .missingValue column =>
    "A null value was encountered while decoding " ++ String.ofList (Text.quoted column.toList)

def heading : DatabaseFault → String
  | .custom _ => "Custom Error: "
  | .noAnswer => "Query Error: "
  | .missingValue _ => "Type Error: "

def message (fault : DatabaseFault) : String := fault.heading ++ fault.detail

/-- A database failure as the log shows it, its kind around the quoted details. -/
def logText (fault : DatabaseFault) : String :=
  let quoted := String.ofList (Text.quoted fault.detail.toList)
  match fault with
  | .custom _ => "Custom(" ++ quoted ++ ")"
  | .noAnswer => "Query(Internal(" ++ quoted ++ "))"
  | .missingValue _ => "Type(" ++ quoted ++ ")"

end DatabaseFault

/-- What was being done when an internal error came up. -/
inductive Activity where
  | prepareItems
  | applyFilter
  | applySort
  | assemble
  | renderItem
  | stated (message : String)
deriving DecidableEq, Repr

def Activity.message : Activity → String
  | .prepareItems => "Collection could not be prepared"
  | .applyFilter => "Filter could not be applied"
  | .applySort => "Sort could not be applied"
  | .assemble => "Collection could not be assembled"
  | .renderItem => "Failed to render item"
  | .stated message => message

inductive Reason where
  | missingParameter (op : Operator) (count : Nat)
  | invalidValue (raw : String) (kind : ValueKind)
  | noFilterType (name : String)
  | noSortType (name : String)
  | noOperator (name : String)
  | earlierFailure
  | stated (text : String)
deriving DecidableEq, Repr

def Reason.text : Reason → String
  | .missingParameter op count =>
    "operator '" ++ op.name ++ "' expects " ++ op.arity.describe ++ s!" but got {count} parameter(s)"
  | .invalidValue raw kind => s!"'{raw}' is not a valid " ++ kind.title ++ " value"
  | .noFilterType name => s!"no filter type named '{name}'"
  | .noSortType name => s!"no sort type named '{name}'"
  | .noOperator name => unknownOperatorText name
  | .earlierFailure => "a previous apply step failed"
  | .stated text => text

/-! ### Errors -/

/-- Everything that can go wrong with a listing. -/
inductive Error where
  | configuration (fault : ConfigFault)
  | validation (violations : List Violation)
  | unsupportedOperator (operator backend : String)
  | database (fault : DatabaseFault)
  | backend (reason : String)
  | internal (activity : Activity) (reason : Option Reason)
deriving DecidableEq, Repr

namespace Error

/-- What a client may learn of an error. -/
def userMessage : Error → String
  | .configuration _ | .unsupportedOperator .. => "The collection is not configured correctly"
  | .validation [violation] => violation.message
  | .validation violations =>
    "Validation failed: " ++ ", ".intercalate (violations.map Violation.message)
  | .database _ => "A database error occurred"
  | .backend _ => "The upstream service failed to answer"
  | .internal activity _ => activity.message

/-- An error in words, for the developer. -/
def description : Error → String
  | .configuration fault => "configuration error: " ++ fault.message
  | .unsupportedOperator op source =>
    s!"operator '{op}' is not supported by the {source} backend"
  | error => error.userMessage

end Error

end Listing
