/-
  Listing/Event.lean
  ==================
  **What the log records.**

  An event is a cause with its circumstances; its level, message and fields are
  what the log shows of it.
-/
import Listing.Choice
import Listing.Response
import Listing.Text.Truth

namespace Listing

/-! ### Events -/

inductive Level where
  | debug
  | error
deriving DecidableEq, Repr

inductive Origin where
  | memory
  | remote
  | table (name : String)
deriving DecidableEq, Repr

inductive Event where
  /-- A request passed validation: its window, the number of its filters, and the
      number of its sort keys. -/
  | validated (limit offset filters sorts : Nat)
  | rejected (violations : List Violation)
  | applyingFilter (filter field : String) (op : Operator) (params : List String) (custom : Bool)
  | applyingSort (sort field : String) (direction : Direction) (custom : Bool)
  | fetched (origin : Origin) (total offset limit count : Nat)
  | assembled (backend : String) (total returned : Nat)
  /-- An error was turned into a response. -/
  | answered (error : Error)
deriving DecidableEq, Repr

namespace Event

/-- The level of the record of an error that was answered: debug for errors
    without details to hide. -/
def errorLevel : Error → Level
  | .validation _ | .internal _ none => .debug
  | _ => .error

def level : Event → Level
  | .answered error => errorLevel error
  | _ => .debug

def errorMessage : Error → String
  | .configuration _ => "Collection configuration error"
  | .unsupportedOperator .. => "Filter operator not supported by backend"
  | .database _ => "Database error occurred"
  | .backend _ => "Remote backend error occurred"
  | .internal _ (some _) => "Internal error occurred"
  | .validation _ | .internal _ none => "API error"

def message : Event → String
  | .validated .. => "Validated collection request"
  | .rejected _ => "Collection request rejected"
  | .applyingFilter .. => "Applying filter"
  | .applyingSort .. => "Applying sort"
  | .fetched .memory .. => "Sliced in-memory page"
  | .fetched .remote .. => "Fetched remote page"
  | .fetched (.table _) .. => "Fetched collection page"
  | .assembled .. => "Assembled collection"
  | .answered error => errorMessage error

def errorFields : Error → List (String × String)
  | .configuration fault => [("details", fault.message)]
  | .unsupportedOperator op source => [("operator", op), ("backend", source)]
  | .database fault => [("error", fault.logText)]
  | .backend reason => [("error", reason)]
  | .internal _ (some reason) => [("details", reason.text)]
  | error => [("error", error.userMessage), ("status", error.status.line)]

def pageFields (total offset limit count : Nat) : List (String × String) :=
  [("total", toString total), ("offset", toString offset), ("limit", toString limit),
    ("fetched", toString count)]

def fields : Event → List (String × String)
  | .validated limit offset filters sorts =>
    [("limit", toString limit), ("offset", toString offset), ("filters", toString filters),
      ("sorts", toString sorts)]
  | .rejected violations => [("errors", Violation.report violations)]
  | .applyingFilter filter field op params custom =>
    [("filter", filter), ("field", field), ("operator", op.name),
      ("params", String.ofList (Text.quotedList (params.map String.toList))),
      ("custom", Text.truthText custom)]
  | .applyingSort sort field direction custom =>
    [("sort", sort), ("field", field), ("direction", direction.name), ("custom", Text.truthText custom)]
  | .fetched (.table name) total offset limit count =>
    ("table", name) :: pageFields total offset limit count
  | .fetched _ total offset limit count => pageFields total offset limit count
  | .assembled backend total returned =>
    [("backend", backend), ("total", toString total), ("returned", toString returned)]
  | .answered error => errorFields error

end Event

end Listing
