/-
  Listing/Schema/Documentation.lean
  =================================
  **The documentation of the query parameters.**

  Every parameter is optional and stands in the query string.  The two bracketed
  ones are deep objects, one pair an entry.
-/
import Listing.Schema.Reading

namespace Listing

structure ParameterDoc where
  name : String
  /-- How a compound value is written, for the parameters that have one. -/
  style : Option String
  /-- Whether each part of a compound value has a pair of its own. -/
  explode : Option Bool
  example? : Option Json

namespace ParameterDoc

def location : String := "query"

def required : Bool := false

def single (name : String) (sample : Option Json) : ParameterDoc := ⟨name, none, none, sample⟩

/-- A parameter with one pair an entry. -/
def bracketed (name : String) (sample : List (String × String)) : ParameterDoc :=
  ⟨name, some "deepObject", some true, some (.object (sample.map fun (k, v) => (k, .string v)))⟩

def all : List ParameterDoc :=
  [single "limit" (some (.ofNat defaultPageSize)),
    single "offset" (some (.ofNat 0)),
    single "page" none,
    single "page_size" none,
    bracketed "filters" [("content", "contains:love"), ("created", "gte:1430404502")],
    bracketed "sort" [("created", "desc")],
    single "fields" (some (.string Detail.brief.name))]

/-- The parameters are documented in the order in which they are read. -/
theorem map_name_all : all.map name = ParameterValues.keys := rfl

end ParameterDoc

end Listing
