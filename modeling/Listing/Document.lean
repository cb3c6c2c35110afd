/-
  Listing/Document.lean
  =====================
  **The document that shows one page.**

  A document holds the items shown, the counters of the page, the sort keys and
  filters that were applied, and the navigation links.  Parts that would be empty
  are left out of its JSON form.
-/
import Listing.Item
import Listing.Paging
import Listing.Request
import Listing.Response

namespace Listing

/-! ### Sorting and filtering that was applied -/

/-- Sort keys by the names of their sort types, the primary one first. -/
abbrev SortKeys : Type := List (String × Direction)

/-- The sort keys and filters that a page was made with, where there are any. -/
structure Meta where
  sort : Option SortKeys
  filters : Option Request.Table

namespace Meta

def isEmpty (applied : Meta) : Bool := applied.sort.isNone && applied.filters.isNone

def sortJson (sort : SortKeys) : Json :=
  .object (sort.map fun (name, direction) => (name, .string direction.name))

def filtersJson (filters : Request.Table) : Json :=
  .object (filters.map fun (name, tokens) => (name, .array (tokens.map .string)))

def json (applied : Meta) : Json :=
  .object ((applied.sort.map fun sort => ("sort", sortJson sort)).toList
    ++ (applied.filters.map fun filters => ("filters", filtersJson filters)).toList)

end Meta

/-! ### Links -/

def linkField (name : String) (address : Option String) : List (String × Json) :=
  (address.map fun href => (name, Json.object [("href", .string href)])).toList

/-- The JSON form of the links that exist. -/
def controlsJson (links : Links String) : Json :=
  .object (linkField "first" links.first ++ linkField "prev" links.prev
    ++ linkField "next" links.next ++ linkField "last" links.last)

/-! ### Documents -/

def documentType : String := "application/vnd.mason+json"

structure Document where
  applied : Meta
  items : List Json
  total : Nat
  offset : Nat
  limit : Nat
  totalPages : Nat
  links : Links String

namespace Document

/-- The JSON form: what was applied, then the items and counters, then the links. -/
def body (document : Document) : Json :=
  .object <|
    (if document.applied.isEmpty then [] else [("@meta", document.applied.json)])
    ++ [("items", .array document.items), ("total", .ofNat document.total),
      ("offset", .ofNat document.offset), ("limit", .ofNat document.limit),
      ("total_pages", .ofNat document.totalPages)]
    ++ (if document.links.isEmpty then [] else [("@controls", controlsJson document.links)])

/-- The document as a normal object, to be put into a larger one. -/
def properties (document : Document) : Json := document.body.normalise

def response (document : Document) : Response := ⟨.ok, documentType, document.body⟩

def summary (document : Document) : String :=
  let shown := document.items.length
  let total := document.total
  let offset := document.offset
  let limit := document.limit
  s!"{shown} of {total} items (offset {offset}, limit {limit})"

end Document

end Listing
