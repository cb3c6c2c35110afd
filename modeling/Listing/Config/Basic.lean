/-
  Listing/Config/Basic.lean
  =========================
  **The configuration of a listing.**

  Settings say which filters and sorts a listing accepts, how it is sorted when
  the request does not say, how items are shown, and how large pages are.  A
  configuration is settings without a fault: names are unique, every default sort
  names a sort type, and the page sizes fit together.
-/
import Listing.Config.FilterType
import Listing.Document

namespace Listing

/-! ### Page sizes -/

def defaultPageSize : Nat := 10

def largestPageSize : Nat := 300

structure PageSizes where
  /-- The page size when the request names none. -/
  standard : Nat
  /-- The largest page size that a request may ask for. -/
  maximum : Nat
deriving DecidableEq, Repr

def PageSizes.usual : PageSizes := ⟨defaultPageSize, largestPageSize⟩

def PageSizes.fit (sizes : PageSizes) : Bool :=
  0 < sizes.maximum && 0 < sizes.standard && sizes.standard ≤ sizes.maximum

/-! ### Settings -/

/-- The settings of a listing over sources of type `σ` with items of type `ι`. -/
structure Settings (σ ι : Type) where
  filters : List (FilterType σ)
  sorts : List (SortType σ)
  /-- The sort keys of a request that names none. -/
  defaultSort : SortKeys
  /-- What every item is shown with, if set. -/
  renderer : Option (ι → Json)
  pageSizes : PageSizes

/-- The first name that stood earlier in the list already. -/
def firstRepeated? (seen : List String) : List String → Option String
  | [] => none
  | name :: rest =>
    if seen.contains name then some name else firstRepeated? (name :: seen) rest

namespace Settings

variable {σ ι : Type}

def empty : Settings σ ι := ⟨[], [], [], none, .usual⟩

def repeatedName? (kind : NameKind) (names : List String) : Option ConfigFault :=
  (firstRepeated? [] names).map (.duplicateName kind)

def strayDefaultSort? (settings : Settings σ ι) : Option ConfigFault :=
  let known := settings.sorts.map SortType.name
  ((settings.defaultSort.map Prod.fst).find? fun name => !known.contains name).map
    .unknownDefaultSort

def pageSizeFault? (settings : Settings σ ι) : Option ConfigFault :=
  if settings.pageSizes.fit then none
  else some (.pageSizes settings.pageSizes.standard settings.pageSizes.maximum)

def fault? (settings : Settings σ ι) : Option ConfigFault :=
  (repeatedName? .filterType (settings.filters.map FilterType.name)).or <|
  (repeatedName? .sortType (settings.sorts.map SortType.name)).or <|
  (repeatedName? .defaultSort (settings.defaultSort.map Prod.fst)).or <|
  (strayDefaultSort? settings).or (pageSizeFault? settings)

end Settings

/-! ### Configurations -/

/-- Settings without a fault. -/
structure Config (σ ι : Type) extends Settings σ ι where
  faultless : toSettings.fault? = none

namespace Config

variable {σ ι : Type}

def ofSettings (settings : Settings σ ι) : Except ConfigFault (Config σ ι) :=
  match h : settings.fault? with
  | some fault => .error fault
  | none => .ok ⟨settings, h⟩

def filterType? (config : Config σ ι) (name : String) : Option (FilterType σ) :=
  config.filters.find? fun filter => filter.name == name

def sortType? (config : Config σ ι) (name : String) : Option (SortType σ) :=
  config.sorts.find? fun sort => sort.name == name

end Config

end Listing
