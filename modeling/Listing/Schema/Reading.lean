/-
  Listing/Schema/Reading.lean
  ===========================
  **Settings and parameters from JSON.**

  A record is an object whose unknown fields are ignored, or an array of its
  fields in order.  Page sizes take their usual values where they are missing.
  Query parameters may be missing or null in an object; an array must hold all of
  them.  A number must be an integer that fits an unsigned word.
-/
import Listing.Config.Basic

namespace Listing

/-! ### Fields -/

def Json.word? : Json → Option Nat
  | .number (.integer n) => if 0 ≤ n ∧ n ≤ Text.maxUnsigned then some n.toNat else none
  | _ => none

def Json.text? : Json → Option String
  | .string s => some s
  | _ => none

def Json.textTable? : Json → Option (List (String × String))
  | .object fields => fields.mapM fun (key, value) => value.text?.map fun text => (key, text)
  | _ => none

/-- A field with a value to use where it is missing. -/
def fieldOr {α : Type} (read : Json → Option α) (default : α) : Option Json → Option α
  | none => some default
  | some value => read value

/-- A field that may be missing or null. -/
def optionalField {α : Type} (read : Json → Option α) : Option Json → Option (Option α)
  | none | some .null => some none
  | some value => (read value).map some

/-! ### Page sizes -/

namespace PageSizes

def ofFields? (standard maximum : Option Json) : Option PageSizes := do
  let standard ← fieldOr Json.word? PageSizes.usual.standard standard
  let maximum ← fieldOr Json.word? PageSizes.usual.maximum maximum
  return ⟨standard, maximum⟩

def ofJson? : Json → Option PageSizes
  | .object fields => ofFields? (fields.lookup "default_per_page") (fields.lookup "max_per_page")
  | .array [] => ofFields? none none
  | .array [standard] => ofFields? (some standard) none
  | .array [standard, maximum] => ofFields? (some standard) (some maximum)
  | _ => none

end PageSizes

/-! ### Query parameters -/

structure ParameterValues where
  limit : Option Nat
  offset : Option Nat
  page : Option Nat
  pageSize : Option Nat
  filters : Option (List (String × String))
  sort : Option (List (String × String))
  fields : Option String
deriving DecidableEq, Repr

namespace ParameterValues

/-- Query parameters from their fields, in the order of the record. -/
def ofFields? : List (Option Json) → Option ParameterValues
  | [limit, offset, page, pageSize, filters, sort, fields] => do
    let limit ← optionalField Json.word? limit
    let offset ← optionalField Json.word? offset
    let page ← optionalField Json.word? page
    let pageSize ← optionalField Json.word? pageSize
    let filters ← optionalField Json.textTable? filters
    let sort ← optionalField Json.textTable? sort
    let fields ← optionalField Json.text? fields
    return ⟨limit, offset, page, pageSize, filters, sort, fields⟩
  | _ => none

def keys : List String := ["limit", "offset", "page", "page_size", "filters", "sort", "fields"]

def ofJson? : Json → Option ParameterValues
  | .object fields => ofFields? (keys.map fun key => fields.lookup key)
  | .array items => ofFields? (items.map some)
  | _ => none

end ParameterValues

end Listing
