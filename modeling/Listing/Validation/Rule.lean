/-
  Listing/Validation/Rule.lean
  ============================
  **Validation rules for one value.**

  A rule looks at a value, with the arguments that the rule was written with, and
  answers with a complaint or with nothing.  Rules that read a number trim the
  value first.
-/
import Listing.Number.Reader
import Listing.Text.Blank
import Listing.Text.Numeral
import Listing.Text.Truth
import Listing.Violation

namespace Listing

open Number (Binary64)
open Text (trim)

/-! ### Ranges -/

/-- What a range rule measures: the number that the trimmed value denotes, else
    the number of characters of the value as it stands. -/
def measure (value : String) : Binary64 × Measure :=
  match Binary64.ofText? (trim value.toList) with
  | some number => (number, .value)
  | none => (Binary64.ofNat value.length, .length)

/-- Complain about a value that measures less than the least or more than the
    greatest allowed.  The comparisons are arithmetic, so a value or bound that is
    NaN is never outside. -/
def rangeComplaint (value : String) (least greatest : Option Binary64) : Option Complaint :=
  let (measured, kind) := measure value
  match least.filter (measured.below ·) with
  | some bound => some (.tooSmall bound kind)
  | none =>
    match greatest.filter (·.below measured) with
    | some bound => some (.tooLarge bound kind)
    | none => none

/-! ### Rules -/

/-- A rule: given field, value and arguments, a complaint or nothing. -/
def Rule : Type := (field value : String) → (arguments : List String) → Option Complaint

namespace Rule

def ofTest (complaint : Complaint) (passes : List Char → Bool) : Rule :=
  fun _ value _ => if passes (trim value.toList) then none else some complaint

def required : Rule := ofTest .missing (!·.isEmpty)

/-- The value is an integer that fits a signed word. -/
def integer : Rule := ofTest .notInteger fun text => (Text.signed? text).isSome

def numeric : Rule := ofTest .notNumeric fun text => (Binary64.ofText? text).any (·.isFinite)

def boolean : Rule :=
  ofTest .notBoolean fun text => (Text.truthValue? (String.ofList text)).isSome

/-- The bound that a range rule was written with, its first argument. -/
def bound? (arguments : List String) : Option Binary64 :=
  arguments.head?.bind fun text => Binary64.ofText? text.toList

def atLeast : Rule := fun _ value arguments =>
  match bound? arguments with
  | some bound => rangeComplaint value (some bound) none
  | none => some (.boundNotNumeric "min")

def atMost : Rule := fun _ value arguments =>
  match bound? arguments with
  | some bound => rangeComplaint value none (some bound)
  | none => some (.boundNotNumeric "max")

/-- The value is one of the arguments, exactly as it stands. -/
def oneOf : Rule := fun _ value arguments =>
  if arguments.contains value then none else some .notListed

def standard : List (String × Rule) :=
  [("required", required), ("integer", integer), ("numeric", numeric), ("boolean", boolean),
    ("min", atLeast), ("max", atMost), ("in", oneOf)]

end Rule

end Listing
