/-
  Listing/Memory/Compare.lean
  ===========================
  **Looking at JSON values.**

  How a source in memory sees a stored value: where it finds the value of a
  field, when it takes a value for empty, what text it searches in, and how it
  compares a value with a parameter or with another value.
-/
import Listing.Json.Writer
import Listing.Number.Reader
import Listing.Text.Lowercase
import Listing.Text.Split
import Listing.Text.Truth

namespace Listing.Memory

open Number (Binary64)

/-! ### Fields -/

/-- The keys of a field that reaches into nested objects, separated by dots. -/
def path (field : String) : List String := (Text.pieces '.' field.toList).map String.ofList

def follow : List String → Json → Option Json
  | [], value => some value
  | key :: rest, value => (value.field? key).bind (follow rest)

/-- The value of a field; null counts as absent. -/
def valueAt (item : Json) (field : String) : Option Json :=
  (follow (path field) item).filter fun value => !value.isNull

/-! ### Empty values and searched text -/

/-- Whether a value counts as empty: absent, false, zero, the texts `""` and
    `"0"`, and anything without members. -/
def isEmpty : Option Json → Bool
  | none | some .null => true
  | some (.bool b) => !b
  | some (.number n) => n.toBinary64.isZero
  | some (.string s) => s == "" || s == "0"
  | some (.array items) => items.isEmpty
  | some (.object fields) => fields.isEmpty

/-- The text that a value is searched in, in lowercase; only scalars have one. -/
def searchText? : Json → Option (List Char)
  | .string s => some (Text.lowercase s.toList)
  | .number n => some n.text
  | .bool b => some (Text.truthText b).toList
  | .null | .array _ | .object _ => none

/-! ### Comparing with a parameter -/

/-- Compare a stored value with a parameter: as numbers when both are, as truth
    values when both are, else the value's text with the parameter. -/
def compareParam (value : Json) (param : String) : Ordering :=
  match value with
  | .number n =>
    match Binary64.ofText? param.toList with
    | some x => n.toBinary64.totalOrder x
    | none => compare (String.ofList n.text) param
  | .bool b =>
    match Text.truthValue? param with
    | some c => compare b c
    | none => compare (Text.truthText b) param
  | .string s => compare s param
  | value => compare value.render param

/-! ### Comparing two values -/

/-- Compare two present values: numbers as numbers, truth values and strings among
    themselves, and values of different kinds by their JSON text. -/
def comparePresent : Json → Json → Ordering
  | .number x, .number y => x.toBinary64.totalOrder y.toBinary64
  | .bool x, .bool y => compare x y
  | .string x, .string y => compare x y
  | x, y => compare x.render y.render

/-- Compare two values of a field; absent values come first. -/
def compareValues : Option Json → Option Json → Ordering
  | none, none => .eq
  | none, some _ => .lt
  | some _, none => .gt
  | some x, some y => comparePresent x y

end Listing.Memory
