/-
  Listing/Config/FilterType.lean
  ==============================
  **The filters and sorts that a listing accepts.**

  A filter type has a name in the query string, the field that it compares, the
  kind of its values, and limits on operators and parameters.  A sort type has a
  name and a field.  Either may be applied in a way of its own instead of the
  source's.
-/
import Listing.Source

namespace Listing

/-! ### Filter types -/

/-- A way to apply a filter: given the field, operator and parameters, a step on the
    source. -/
abbrev CustomFilter (σ : Type) : Type :=
  (field : String) → Operator → (params : List String) → Action σ Unit

/-- A filter that a listing accepts. -/
structure FilterType (σ : Type) where
  name : String
  /-- The field compared, if its name is another one. -/
  field : Option String
  /-- The operators accepted; every one if not set. -/
  operators : Option (List Operator)
  /-- Rules that every parameter must pass, besides the rule of its kind. -/
  rules : Option String
  kind : ValueKind
  custom : Option (CustomFilter σ)

namespace FilterType

variable {σ : Type}

def named (name : String) : FilterType σ := ⟨name, none, none, none, .text, none⟩

def fieldName (filter : FilterType σ) : String := filter.field.getD filter.name

def supports (filter : FilterType σ) (op : Operator) : Bool :=
  filter.operators.all fun allowed => allowed.contains op

/-- The rules that every parameter must pass, those of its kind first. -/
def paramRules (filter : FilterType σ) : String :=
  "|".intercalate (filter.kind.rule?.toList ++ filter.rules.toList)

def apply {ι : Type} [Source σ ι] (filter : FilterType σ) (op : Operator) (params : List String) :
    Action σ Unit := do
  Action.record
    (.applyingFilter filter.name filter.fieldName op params filter.custom.isSome)
  match filter.custom with
  | some custom => custom filter.fieldName op params
  | none => Source.addFilter filter.fieldName filter.kind op params

end FilterType

/-! ### Sort types -/

abbrev CustomSort (σ : Type) : Type := (field : String) → Direction → Action σ Unit

structure SortType (σ : Type) where
  name : String
  /-- The field sorted by, if its name is another one. -/
  field : Option String
  title : Option String
  custom : Option (CustomSort σ)

namespace SortType

variable {σ : Type}

def named (name : String) : SortType σ := ⟨name, none, none, none⟩

def fieldName (sort : SortType σ) : String := sort.field.getD sort.name

def apply {ι : Type} [Source σ ι] (sort : SortType σ) (direction : Direction) : Action σ Unit := do
  Action.record (.applyingSort sort.name sort.fieldName direction sort.custom.isSome)
  match sort.custom with
  | some custom => custom sort.fieldName direction
  | none => Source.addSort sort.fieldName direction

end SortType

end Listing
