/-
  Listing/Proofs/Meaning.lean
  ===========================
  **What a document over a source in memory means.**

  The items of a document are those that pass every token of every filter, in the
  order of the sort keys, cut to the page.  `Shows` says this of a document in
  terms of the request and the items alone: of the tokens under both spellings of the
  filters (`Request.tokens`), of the sort keys and the detail as the request words
  them (`Request.AsksSort`, `Request.AsksDetail`) and of the page that its numbers
  denote (`Honours`).  That a valid request gets such a document is `assemble_shows`.
  Only what the filters carry matters, not the order of the tokens nor the spelling
  under which they stand.
-/
import Listing.Proofs.Entries
import Listing.Proofs.Order
import Listing.Proofs.Windows
import Mathlib.Algebra.Order.Floor.Div

namespace Listing

variable {σ ι : Type}

/-! ### What a request asks for -/

namespace Request

/-- The tokens that stand under a key, each with the name of its filter. -/
def tokensUnder (request : Request) (key : String) : List (String × String) :=
  match request.map key with
  | .table entries => entries.flatMap fun entry => entry.2.map (Prod.mk entry.1)
  | .absent | .malformed => []

/-- The tokens of all filters of a request, under both spellings. -/
def tokens (request : Request) : List (String × String) :=
  request.tokensUnder "filters" ++ request.tokensUnder "filter"

/-- The sort keys that a request asks for: the ones that it lists, each with the word of its
    direction, or else the default ones. -/
inductive AsksSort (request : Request) (standard : SortKeys) : SortKeys → Prop where
  | unsaid (absent : request.map "sort" = .absent) : AsksSort request standard standard
  | listed {keys : SortKeys}
      (table : request.map "sort" = .table (keys.map fun key => (key.1, [key.2.name]))) :
      AsksSort request standard keys

/-- The detail that a request asks for by its word; everything if it does not say. -/
inductive AsksDetail (request : Request) : Detail → Prop where
  | unsaid (absent : request.get? "fields" = none) : AsksDetail request .all
  | named {detail : Detail} (given : request.get? "fields" = some detail.name) :
      AsksDetail request detail

theorem table_ne_nil {request : Request} {name : String} {table : Table}
    (h : request.map name = .table table) : table ≠ [] := by
  obtain ⟨hpairs, hentries⟩ := map_eq_table_iff.1 h
  obtain ⟨given, hgiven, hlists⟩ := lists_nil.enterAll hentries
  generalize request.pairsOf name = pairs at hpairs hgiven
  rintro rfl
  cases hgiven with
  | nil => exact hpairs rfl
  | cons _ _ =>
    have hnames := hlists.names_eq
    rw [List.nil_append, List.map_cons, List.eraseDups_cons] at hnames
    cases hnames

end Request

namespace Query

/-- What a query carries are the tokens of the request. -/
theorem carried_eq_tokens (request : Request) : carried request = request.tokens := by
  have hunder : ∀ key, (entries request key).carried = request.tokensUnder key := by
    intro key
    unfold entries Request.tokensUnder
    cases request.map key <;> rfl
  rw [carried, hunder, hunder, Request.tokens]

theorem perm_carried_tokens (request : Request) :
    (filtersOf request).carried.Perm request.tokens :=
  carried_eq_tokens request ▸ perm_carried_filtersOf request

end Query

/-! ### Filters, sort keys and detail of a query -/

namespace Config

/-- Whether an item passes a token of a filter: the value of the filter's field satisfies the
    predicate of the token. -/
def passes (config : Config σ ι) (token : String × String) (item : Json) : Bool :=
  match config.filterType? token.1, (Token.ofText token.2).operator? with
  | some filter, some op =>
    match Memory.predicate op (Token.ofText token.2).params with
    | .ok holds => holds (Memory.valueAt item filter.fieldName)
    | .error _ => false
  | _, _ => false

/-- Whether an item passes all of the tokens. -/
def keeps (config : Config σ ι) (tokens : List (String × String)) (item : Json) : Bool :=
  tokens.all fun token => config.passes token item

/-- The fields that sort keys sort by, in their directions. -/
def sortFields (config : Config σ ι) (keys : SortKeys) : List (String × Direction) :=
  keys.filterMap fun key => (config.sortType? key.1).map fun sort => (sort.fieldName, key.2)

theorem flatMap_sortFields (config : Config σ ι) (keys : SortKeys) :
    keys.flatMap (fun key => config.sortFields [key]) = config.sortFields keys := by
  induction keys with
  | nil => rfl
  | cons key rest ih =>
    rw [List.flatMap_cons, ih]
    exact List.filterMap_append.symm

theorem keeps_congr (config : Config σ ι) {tokens others : List (String × String)}
    (h : tokens.Perm others) : config.keeps tokens = config.keeps others :=
  funext fun _ => h.all_eq

end Config

/-- The word of a direction is read as that direction only. -/
theorem Direction.name_of_ofName? {word : String} {direction : Direction}
    (h : ofName? word = some direction) : direction.name = word := by
  unfold ofName? at h
  split at h
  · cases h
    rfl
  · cases h
    rfl
  · cases h

theorem Config.eq_of_direction? {words : List String} {direction : Direction}
    (h : direction? words = some direction) : words = [direction.name] := by
  unfold direction? at h
  split at h
  · rw [Direction.name_of_ofName? h]
  · cases h

namespace Query

variable {config : Config σ ι} {request : Request}

/-- Sort keys in which nothing is wrong are read without loss. -/
theorem map_requestedSort
    (h : ∀ entry ∈ entries request "sort", config.sortViolations entry = []) :
    (requestedSort request).map (fun key => (key.1, [key.2.name])) = entries request "sort" := by
  unfold requestedSort
  generalize entries request "sort" = table at h ⊢
  induction table with
  | nil => rfl
  | cons entry rest ih =>
    obtain ⟨hentry, hrest⟩ := List.forall_mem_cons.1 h
    obtain ⟨direction, hdirection⟩ := Config.exists_direction_of_sortViolations hentry
    obtain ⟨name, words⟩ := entry
    have hwords : words = [direction.name] := Config.eq_of_direction? hdirection
    simp only [List.filterMap_cons, hdirection, Option.map_some, List.map_cons, ih hrest]
    rw [hwords]

/-- A valid request is read with the sort keys that it asks for. -/
theorem asksSort_sortOf (h : config.Accepts request) :
    request.AsksSort config.defaultSort (sortOf config request) := by
  obtain ⟨hformed, hentries⟩ := Config.sortKeyViolations_eq_nil_iff.1 h.sorts
  have hread := map_requestedSort hentries
  cases hmap : request.map "sort" with
  | absent =>
    have hnone : entries request "sort" = [] := by rw [entries, hmap]
    rw [sortOf, hnone]
    exact .unsaid hmap
  | malformed => exact absurd hmap hformed
  | table table =>
    have hlisted : entries request "sort" = table := by rw [entries, hmap]
    have hsome : ¬ (entries request "sort").isEmpty = true := by
      rw [hlisted, List.isEmpty_iff]
      exact Request.table_ne_nil hmap
    rw [sortOf, if_neg hsome]
    exact .listed (by rw [hread, hlisted, hmap])

/-- A valid request is read with the detail that it asks for. -/
theorem asksDetail_detailOf (h : config.Accepts request) :
    request.AsksDetail (detailOf request) := by
  have hkey : Parameter.fields.key = "fields" := rfl
  have hvalue := h.values .fields (Parameter.mem_all _)
  unfold Parameter.valueViolations at hvalue
  unfold detailOf
  rw [hkey] at hvalue ⊢
  cases hget : request.get? "fields" with
  | none => exact .unsaid hget
  | some word =>
    rw [hget] at hvalue
    obtain ⟨found, hcheck, hnil⟩ := Except.map_eq_ok_iff.1 hvalue
    cases Option.toList_eq_nil_iff.1 hnil
    have hcall : (⟨"in", ["all", "full", "brief"]⟩ : RuleCall) ∈ RuleCall.all "in:all,full,brief" :=
      List.mem_singleton.2 rfl
    obtain ⟨rule, hrule, hlisted⟩ := Validator.check_eq_none_iff.1 hcheck _ hcall
    rw [config.rule?_standard (by decide) (by decide)] at hrule
    cases hrule
    have hword : word ∈ ["all", "full", "brief"] := by
      by_contra hmissing
      simp [Rule.oneOf, hmissing] at hlisted
    simp only [List.mem_cons, List.not_mem_nil, or_false] at hword
    rcases hword with rfl | rfl | rfl <;> exact .named hget

end Query

/-! ### A query on a source in memory -/

def Entry.row (entry : Entry ι) : ι × Json := (entry.item, entry.value)

namespace Memory

/-- Items with their JSON forms as entries, numbered in order. -/
def numbered (rows : List (ι × Json)) : List (Entry ι) :=
  rows.zipIdx.map fun pair => ⟨pair.2, pair.1.1, pair.1.2⟩

theorem map_row_numbered (rows : List (ι × Json)) : (numbered rows).map Entry.row = rows := by
  rw [numbered, List.map_map]
  exact List.zipIdx_map_fst 0 rows

/-- A source can be made of items that can be turned into JSON; it has them in order and shows
    all of them. -/
theorem ofItems_eq_numbered [Representable ι] {rows : List (ι × Json)}
    (h : ∀ row ∈ rows, Representable.serialise row.1 = .ok row.2) :
    ofItems (rows.map Prod.fst) = .ok ⟨numbered rows, numbered rows, []⟩ := by
  refine Except.map_eq_ok_iff.2 ⟨_, mapM_eq_ok_iff.2 ?_, rfl⟩
  rw [numbered, List.zipIdx_map, List.forall₂_map_left_iff, List.forall₂_map_right_iff,
    List.forall₂_same]
  intro pair hmem
  have hserialise := h pair.1 (List.fst_mem_of_mem_zipIdx hmem)
  simp only [entry, Prod.map, id_eq, hserialise]

theorem exists_ofItems [Representable ι] {rows : List (ι × Json)}
    (h : ∀ row ∈ rows, Representable.serialise row.1 = .ok row.2) :
    ∃ entries, ofItems (rows.map Prod.fst) = .ok ⟨entries, entries, []⟩ ∧
      entries.map Entry.row = rows :=
  ⟨numbered rows, ofItems_eq_numbered h, map_row_numbered rows⟩

variable {config : Config (Memory ι) ι}

theorem yields_applyToken (hplain : config.Plain) {name text : String}
    {filter : FilterType (Memory ι)} {op : Operator}
    (hfilter : config.filterType? name = some filter) (hop : (Token.ofText text).operator? = some op)
    (happlicable : Applicable filter.kind op (Token.ofText text).params) :
    Action.Yields (retain (config.passes (name, text))) (Query.applyToken config name text) := by
  have hcustom : filter.custom = none :=
    hplain.filters filter (List.mem_of_find?_eq_some hfilter)
  obtain ⟨holds, hholds⟩ := happlicable.exists_predicate
  have hpasses : config.passes (name, text) = fun item => holds (valueAt item filter.fieldName) := by
    funext item
    simp only [Config.passes, hfilter, hop, hholds]
  simp only [Query.applyToken, hfilter, hop]
  rw [FilterType.apply_of_custom_none hcustom, hpasses]
  refine Action.yields_record_bind _ ?_
  intro memory
  rw [addFilter_of_predicate hholds]
  exact ⟨rfl, rfl⟩

theorem yields_applySortKey (hplain : config.Plain) {key : String × Direction}
    {sort : SortType (Memory ι)} (hsort : config.sortType? key.1 = some sort) :
    Action.Yields (fun memory => { memory with
        sortKeys := memory.sortKeys ++ config.sortFields [key] })
      (Query.applySortKey config key) := by
  have hcustom : sort.custom = none := hplain.sorts sort (List.mem_of_find?_eq_some hsort)
  have hfields : config.sortFields [key] = [(sort.fieldName, key.2)] := by
    simp [Config.sortFields, hsort]
  simp only [Query.applySortKey, hsort]
  rw [SortType.apply_of_custom_none hcustom, hfields]
  exact Action.yields_record_bind _ fun memory => ⟨rfl, rfl⟩

theorem retain_retain (first second : Json → Bool) (memory : Memory ι) :
    (memory.retain first).retain second = memory.retain fun item => first item && second item := by
  simp only [retain, List.filter_filter, Bool.and_comm]

theorem foldl_retain {α : Type} (tests : α → Json → Bool) (xs : List α) (memory : Memory ι) :
    xs.foldl (fun current x => current.retain (tests x)) memory
      = memory.retain fun item => xs.all fun x => tests x item := by
  induction xs generalizing memory with
  | nil => simp [retain]
  | cons x rest ih =>
    rw [List.foldl_cons, ih, retain_retain]
    rfl

theorem foldl_sortKeys {α : Type} (keys : α → List (String × Direction)) (xs : List α)
    (memory : Memory ι) :
    xs.foldl (fun current x => { current with sortKeys := current.sortKeys ++ keys x }) memory
      = { memory with sortKeys := memory.sortKeys ++ xs.flatMap keys } := by
  induction xs generalizing memory with
  | nil => simp
  | cons x rest ih => simp [ih]

/-- Applying a query narrows the view to the items that pass its filters and adds its sort
    keys. -/
theorem yields_apply (hplain : config.Plain) {query : Query} (hresolved : query.Resolved config) :
    Action.Yields (fun memory => { memory.retain (config.keeps query.filters.carried) with
        sortKeys := memory.sortKeys ++ config.sortFields query.sort }) (query.apply config) := by
  have hsteps : query.steps config
      = query.filters.carried.map (fun token => Query.applyToken config token.1 token.2)
        ++ query.sort.map (Query.applySortKey config) := by
    simp only [Query.steps, Request.Table.carried, List.map_flatMap, List.map_map]
    rfl
  have hfilters : Action.Yields
      (fun memory => query.filters.carried.foldl
        (fun current token => current.retain (config.passes token)) memory)
      (Action.all (query.filters.carried.map fun token =>
        Query.applyToken config token.1 token.2)) := by
    refine Action.yields_all ?_
    intro token hmem
    obtain ⟨filter, hfilter, op, hop, happlicable⟩ := hresolved.tokens token.1 token.2 hmem
    exact yields_applyToken hplain hfilter hop happlicable
  have hsort : Action.Yields
      (fun memory => query.sort.foldl (fun current key =>
        { current with sortKeys := current.sortKeys ++ config.sortFields [key] }) memory)
      (Action.all (query.sort.map (Query.applySortKey config))) := by
    refine Action.yields_all ?_
    intro key hmem
    obtain ⟨sort, hsort⟩ := hresolved.sort key hmem
    exact yields_applySortKey hplain hsort
  intro memory
  obtain ⟨hresult, hstate⟩ := Action.yields_append hfilters hsort memory
  simp only [foldl_retain, foldl_sortKeys, config.flatMap_sortFields] at hstate
  rw [Query.apply, hsteps, hresult, hstate]
  exact ⟨rfl, rfl⟩

end Memory

/-! ### The document of a valid request -/

namespace Assembly

open Parameter (denoted?)

/-- A valid request whose query can be applied gets the document of the page that is fetched
    then. -/
theorem result_assemble [Source σ ι] [Representable ι] {config : Config σ ι} {request : Request}
    {source : σ} {query : Query} {page : Page ι} {shown : List Json}
    (hvalid : Query.ofRequest config request = .ok query)
    (happly : (query.apply config source).result = .ok ())
    (hfetch : (Source.fetch query.window.limit query.window.offset
      (query.apply config source).state).result = .ok page)
    (hshown : page.items.mapM (renderItem config.renderer query.detail) = .ok shown) :
    (assemble (start config request source)).result
      = .ok (document request query page.total shown) := by
  have hvalidate : validate (start config request source)
      = ⟨⟨config, request, source, .validated query⟩, [validatedEvent query], .ok ()⟩ := by
    simp only [validate, start, hvalid]
  have hquery : applyQuery ⟨config, request, source, .validated query⟩
      = ⟨⟨config, request, (query.apply config source).state, .applied query⟩,
        (query.apply config source).events, .ok ()⟩ := by
    simp only [applyQuery, happly]
  have hdocument : (fetchDocument ⟨config, request, (query.apply config source).state,
      .applied query⟩).result = .ok (document request query page.total shown) := by
    simp only [fetchDocument, hfetch, Except.bind, hshown, Except.map]
  have hvalidated : (validate (start config request source)).result = .ok () := by rw [hvalidate]
  have happlied : (apply (start config request source)).result = .ok () := by
    refine (Action.result_bind_ok hvalidated).trans ?_
    rw [hvalidate, hquery]
  have hstate : (apply (start config request source)).state
      = ⟨config, request, (query.apply config source).state, .applied query⟩ := by
    refine (Action.state_bind_ok hvalidated).trans ?_
    rw [hvalidate, hquery]
  refine (Action.result_bind_ok happlied).trans ?_
  rw [hstate, hdocument]

/-- What a document says of the items, given each with its JSON form, and of the request. -/
structure Shows [Representable ι] (config : Config σ ι) (request : Request)
    (rows : List (ι × Json)) (document : Document) : Prop where
  /-- The page is the one that the numbers of the request denote. -/
  window : ¬ request.Overlooks → Honours config request ⟨document.limit, document.offset⟩
  /-- A page number wins over an offset of zero that has a minus sign. -/
  overlooked : request.Overlooks →
    (document.limit : Int) = ((denoted? request .limit).or
        (denoted? request .pageSize)).getD config.pageSizes.standard ∧
      ∀ p, denoted? request .page = some p →
        (document.offset : Int) = min (p * document.limit) maxOffset
  /-- The total counts the items that pass every token of every filter. -/
  total : document.total = (rows.filter fun row => config.keeps request.tokens row.2).length
  /-- The items are those of the page among the items that pass, sorted by the fields of the
      sort keys, the primary one first, and shown with the detail that is asked for. -/
  items : ∃ keys detail sorted, request.AsksSort config.defaultSort keys ∧
    request.AsksDetail detail ∧
    StablySorted (fun first second => Memory.compareKeys (config.sortFields keys) first.2 second.2)
      (rows.filter fun row => config.keeps request.tokens row.2) sorted ∧
    ((sorted.drop document.offset).take document.limit).mapM
      (fun row => renderItem config.renderer detail row.1) = .ok document.items
  totalPages : document.totalPages = document.total ⌈/⌉ document.limit
  /-- The links lead to the same request at the offsets of the other pages. -/
  links : document.links =
    (Links.ofPage document.total document.limit document.offset).map request.urlAt

theorem mapM_page [Representable ι] (renderer : Option (ι → Json)) (detail : Detail)
    (entries : List (Entry ι)) (limit offset : Nat) :
    (((entries.map Entry.row).drop offset).take limit).mapM
        (fun row => renderItem renderer detail row.1)
      = (((entries.drop offset).take limit).map Entry.item).mapM (renderItem renderer detail) := by
  rw [← List.map_drop, ← List.map_take, List.mapM_map, List.mapM_map]
  rfl

/-- The entries that a query leaves, with its sort keys. -/
def narrowed (config : Config (Memory ι) ι) (query : Query) (entries : List (Entry ι)) : Memory ι :=
  ⟨entries, entries.filter fun entry => config.keeps query.filters.carried entry.value,
    config.sortFields query.sort⟩

theorem map_row_narrowed (config : Config (Memory ι) ι) {rows : List (ι × Json)}
    {entries : List (Entry ι)} (hentries : entries.map Entry.row = rows) (query : Query) :
    (narrowed config query entries).view.map Entry.row
      = rows.filter fun row => config.keeps query.filters.carried row.2 := by
  rw [← hentries, List.filter_map]
  rfl

section Meaning

variable [Representable ι] {config : Config (Memory ι) ι} {request : Request}

/-- A valid request gets the page of what its query leaves. -/
theorem exists_document (hplain : config.Plain) {entries : List (Entry ι)}
    (hentries : ∀ entry ∈ entries, Representable.serialise entry.item = .ok entry.value)
    {query : Query} (hvalid : Query.ofRequest config request = .ok query) :
    ∃ shown,
      ((narrowed config query entries).page query.window.limit query.window.offset).items.mapM
        (renderItem config.renderer query.detail) = .ok shown ∧
      (assemble (start config request (⟨entries, entries, []⟩ : Memory ι))).result
        = .ok (document request query (narrowed config query entries).view.length shown) := by
  have hresolved : query.Resolved config := Query.resolved_of_ofRequest hvalid
  obtain ⟨hresult, hstate⟩ := Memory.yields_apply hplain hresolved ⟨entries, entries, []⟩
  have hnarrowed : (query.apply config ⟨entries, entries, []⟩).state
      = narrowed config query entries := hstate
  have hpresentable : (narrowed config query entries).Presentable := by
    intro entry hmem
    exact ⟨entry.value, hentries entry (List.mem_of_mem_filter hmem)⟩
  obtain ⟨shown, hshown⟩ := exists_mapM_renderItem
    (Memory.showable_page hpresentable config.renderer query.detail query.window.limit
      query.window.offset)
  have hfetch : (Source.fetch query.window.limit query.window.offset
      (query.apply config ⟨entries, entries, []⟩).state).result
      = .ok ((narrowed config query entries).page query.window.limit query.window.offset) := by
    rw [hnarrowed]
    rfl
  exact ⟨shown, hshown, result_assemble hvalid hresult hfetch hshown⟩

theorem pageCount_eq_ceilDiv (total limit : Nat) : pageCount total limit = total ⌈/⌉ limit :=
  (Nat.ceilDiv_eq_add_pred_div total limit).symm

/-- **A valid request gets what it asks for.**  Over the given items a document is made, and
    it shows the items that the filters let pass, in order, cut to the page.  A request for
    the same page in the same order, whose filters carry the same tokens in whatever order
    and under whichever spelling, gets the same items and the same counts. -/
theorem assemble_shows (hplain : config.Plain) {rows : List (ι × Json)}
    (hrows : ∀ row ∈ rows, Representable.serialise row.1 = .ok row.2) {query : Query}
    (hvalid : Query.ofRequest config request = .ok query) :
    ∃ memory, Memory.ofItems (rows.map Prod.fst) = .ok memory ∧
      ∃ document, (assemble (start config request memory)).result = .ok document ∧
        Shows config request rows document ∧
        ∀ other same, Query.ofRequest config other = .ok same → same.window = query.window →
          same.sort = query.sort → same.detail = query.detail →
          other.tokens.Perm request.tokens →
          ∃ another, (assemble (start config other memory)).result = .ok another ∧
            another.items = document.items ∧ another.total = document.total ∧
            another.totalPages = document.totalPages := by
  obtain ⟨entries, hmemory, hentries⟩ := Memory.exists_ofItems hrows
  have hserialise : ∀ entry ∈ entries, Representable.serialise entry.item = .ok entry.value := by
    intro entry hmem
    exact hrows entry.row (hentries ▸ List.mem_map_of_mem hmem)
  obtain ⟨haccepts, rfl⟩ := Query.ofRequest_eq_ok_iff.1 hvalid
  obtain ⟨shown, hshown, hresult⟩ := exists_document hplain hserialise hvalid
  have hkept : config.keeps (Query.read config request).filters.carried
      = config.keeps request.tokens := config.keeps_congr (Query.perm_carried_tokens request)
  have hview := map_row_narrowed config hentries (Query.read config request)
  rw [hkept] at hview
  refine ⟨_, hmemory, _, hresult, ?_, ?_⟩
  · exact {
      window := Query.honours_of_not_overlooks haccepts
      overlooked := fun hoverlooks =>
        ⟨Query.honours_limit haccepts, (Query.offset_of_overlooks haccepts hoverlooks.1).2⟩
      total := by
        rw [← hview, List.length_map]
        rfl
      items := by
        refine ⟨_, _, (narrowed config (Query.read config request) entries).sortedView.map Entry.row,
          Query.asksSort_sortOf haccepts, Query.asksDetail_detailOf haccepts, ?_,
          (mapM_page _ _ _ _ _).trans hshown⟩
        have hsorted := Memory.stablySorted_sortedView
          (narrowed config (Query.read config request) entries)
        exact hview ▸ StablySorted.map (f := Entry.row) hsorted
      totalPages := pageCount_eq_ceilDiv _ _
      links := rfl }
  · intro other same hsame hwindow hsort hdetail htokens
    obtain ⟨again, hagain, hother⟩ := exists_document hplain hserialise hsame
    obtain ⟨-, rfl⟩ := Query.ofRequest_eq_ok_iff.1 hsame
    have hkeeps : config.keeps (Query.read config other).filters.carried
        = config.keeps (Query.read config request).filters.carried := by
      rw [hkept]
      exact config.keeps_congr ((Query.perm_carried_tokens other).trans htokens)
    have hnarrowed : narrowed config (Query.read config other) entries
        = narrowed config (Query.read config request) entries := by
      rw [narrowed, hkeeps, hsort]
      rfl
    rw [hnarrowed, hwindow, hdetail, hshown] at hagain
    cases hagain
    refine ⟨_, hother, rfl, ?_, ?_⟩
    · rw [hnarrowed]
      rfl
    · rw [hnarrowed, document, hwindow]
      rfl

end Meaning

def parcel (size : Nat) (colour : String) : Row :=
  ⟨.object [("size", .ofNat size), ("colour", .string colour)], none, none, none⟩

/-- The request `parcelsRequest` with the tokens under the other spelling each and in another
    order. -/
def parcelsAgain : Request :=
  ⟨"/parcels", [("limit", "1"), ("sort[size]", "asc"), ("filters[colour]", "in:red,b|ue"),
    ("filter[size]", "between:2,5")]⟩

/-- Three parcels of which two pass, for two spellings of one request: both are counted, and the
    smaller one is shown. -/
theorem parcels_shown :
    let rows := [(parcel 4 "red", (parcel 4 "red").value), (parcel 7 "red", (parcel 7 "red").value),
      (parcel 2 "b|ue", (parcel 2 "b|ue").value)]
    ∃ memory, Memory.ofItems (rows.map Prod.fst) = .ok memory ∧
      ∃ document, (assemble (start (parcels _ _) parcelsRequest memory)).result = .ok document ∧
        Shows (parcels (Memory Row) Row) parcelsRequest rows document ∧
        (document.total = 2 ∧ document.totalPages = 2 ∧ document.limit = 1 ∧ document.offset = 0 ∧
          document.items.map Json.text = ["\x7b\"size\":2,\"colour\":\"b|ue\"\x7d".toList]) ∧
        ∃ another, (assemble (start (parcels _ _) parcelsAgain memory)).result = .ok another ∧
          another.items = document.items ∧ another.total = document.total ∧
          another.totalPages = document.totalPages := by
  intro rows
  have hrows : ∀ row ∈ rows, Representable.serialise row.1 = .ok row.2 := by
    intro row hmem
    simp only [rows, List.mem_cons, List.not_mem_nil, or_false] at hmem
    rcases hmem with rfl | rfl | rfl <;> rfl
  have hvalid : (parcels (Memory Row) Row).violations parcelsRequest = .ok [] := by decide +kernel
  have hagain : (parcels (Memory Row) Row).violations parcelsAgain = .ok [] := by decide +kernel
  have hquery := Query.ofRequest_eq_ok_iff.2 ⟨Config.violations_eq_nil_iff.1 hvalid, rfl⟩
  have hsame := Query.ofRequest_eq_ok_iff.2 ⟨Config.violations_eq_nil_iff.1 hagain, rfl⟩
  obtain ⟨memory, hmemory, document, hdocument, hshows, hothers⟩ :=
    assemble_shows plain_parcels hrows hquery
  have hpinned : (assemble (start (parcels _ _) parcelsRequest memory)).result.toOption.map
      (fun shown => ([shown.total, shown.totalPages, shown.limit, shown.offset],
        shown.items.map Json.text))
      = some ([2, 2, 1, 0], ["\x7b\"size\":2,\"colour\":\"b|ue\"\x7d".toList]) := by
    cases hmemory.symm.trans (Memory.ofItems_eq_numbered hrows)
    decide +kernel
  rw [hdocument] at hpinned
  obtain ⟨hnumbers, htexts⟩ := Prod.mk.inj (Option.some.inj hpinned)
  simp only [List.cons.injEq, and_true] at hnumbers
  obtain ⟨htotal, hpages, hlimit, hoffset⟩ := hnumbers
  refine ⟨memory, hmemory, document, hdocument, hshows,
    ⟨htotal, hpages, hlimit, hoffset, htexts⟩, hothers parcelsAgain _ hsame ?_ ?_ ?_ ?_⟩
  · decide +kernel
  · decide +kernel
  · decide +kernel
  · decide +kernel

end Assembly

end Listing
