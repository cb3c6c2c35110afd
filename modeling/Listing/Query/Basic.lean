/-
  Listing/Query/Basic.lean
  ========================
  **A request that was found valid.**

  A query is what is left of a request after validation: the window of the page,
  the amount of detail, the filters and the sort keys.  `filter` is an older
  spelling of `filters`; the tokens of both are joined by name.
-/
import Listing.Query.Validation

namespace Listing

structure Query where
  window : Window
  detail : Detail
  filters : Request.Table
  sort : SortKeys
  /-- The filters and sort keys as the document tells them. -/
  applied : Meta

namespace Query

variable {σ ι : Type}

/-- The entries of a bracketed parameter; none when it is absent or malformed. -/
def entries (request : Request) (key : String) : Request.Table :=
  match request.map key with
  | .table entries => entries
  | _ => []

/-- Join entries by name, in order of first occurrence. -/
def merge (table more : Request.Table) : Request.Table :=
  more.foldl (fun merged (name, tokens) => merged.alter name (· ++ tokens)) table

/-- The filters of a request, under both spellings. -/
def filtersOf (request : Request) : Request.Table :=
  merge (entries request "filters") (entries request "filter")

def requestedSort (request : Request) : SortKeys :=
  (entries request "sort").filterMap fun (name, words) =>
    (Config.direction? words).map fun direction => (name, direction)

/-- The sort keys of a request; the default ones when it names none. -/
def sortOf (config : Config σ ι) (request : Request) : SortKeys :=
  if (entries request "sort").isEmpty then config.defaultSort else requestedSort request

def windowOf (config : Config σ ι) (request : Request) : Window :=
  let asked : PageRequest :=
    { limit := Parameter.number? request .limit
      offset := Parameter.number? request .offset
      page := Parameter.number? request .page
      pageSize := Parameter.number? request .pageSize }
  asked.window config.pageSizes.standard

/-- The amount of detail that a request asks for; all if it does not say. -/
def detailOf (request : Request) : Detail :=
  ((request.get? Parameter.fields.key).bind Detail.ofName?).getD .all

/-- What a document tells of the filters and sort keys: nothing of either when the
    listing has no such types, or when there are none. -/
def appliedOf (config : Config σ ι) (filters : Request.Table) (sort : SortKeys) : Meta where
  sort := if config.sorts.isEmpty || sort.isEmpty then none else some sort
  filters := if config.filters.isEmpty || filters.isEmpty then none else some filters

def read (config : Config σ ι) (request : Request) : Query :=
  let filters := filtersOf request
  let sort := sortOf config request
  { window := windowOf config request
    detail := detailOf request
    filters := filters
    sort := sort
    applied := appliedOf config filters sort }

/-- Validate a request: the query, or every violation, or a mistake in the
    configuration. -/
def ofRequest (config : Config σ ι) (request : Request) : Except Error Query :=
  match config.violations request with
  | .error unknown => .error (.configuration (.unknownRule unknown.name))
  | .ok [] => .ok (read config request)
  | .ok violations => .error (.validation violations)

/-! ### Applying a query -/

def filterFailure (reason : Reason) : Error := .internal .applyFilter (some reason)

def applyToken [Source σ ι] (config : Config σ ι) (name text : String) : Action σ Unit :=
  match config.filterType? name with
  | none => Action.fail (filterFailure (.noFilterType name))
  | some filter =>
    let token := Token.ofText text
    match token.operator? with
    | none => Action.fail (filterFailure (.noOperator token.operator))
    | some op => filter.apply op token.params

def applySortKey [Source σ ι] (config : Config σ ι) (key : String × Direction) : Action σ Unit :=
  match config.sortType? key.1 with
  | none => Action.fail (.internal .applySort (some (.noSortType key.1)))
  | some sort => sort.apply key.2

/-- The steps of a query on a source: every token of every filter, then every sort
    key. -/
def steps [Source σ ι] (config : Config σ ι) (query : Query) : List (Action σ Unit) :=
  query.filters.flatMap (fun entry => entry.2.map (applyToken config entry.1))
    ++ query.sort.map (applySortKey config)

/-- Apply a query to a source, up to the first failure. -/
def apply [Source σ ι] (config : Config σ ι) (query : Query) : Action σ Unit :=
  Action.all (query.steps config)

end Query

end Listing
