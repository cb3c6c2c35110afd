/-
  Listing/Proofs/Serving.lean
  ===========================
  **No request makes the server fail.**

  A source is reliable as long as it takes every applicable token, every sort key
  and every fetch.  Over a reliable source a listing without filters and sorts of
  its own answers every request with a document or with violations, whatever the
  request says and whatever was called before (`served_of_reliable`).  The source
  in memory is reliable when its items can be shown, and the source over a query
  when the database answers with a number and with rows that can be shown.  An answer
  that is no failure of the database is not enough (`unshown_row_fails`).
-/
import Listing.Memory.Source
import Listing.Proofs.Trace
import Listing.Proofs.Validity
import Listing.Relational.Source

namespace Listing

variable {σ ι α β : Type}

/-! ### Listings and answers -/

/-- The listing applies every filter and sort in the way of its source. -/
structure Config.Plain (config : Config σ ι) : Prop where
  filters : ∀ filter ∈ config.filters, filter.custom = none
  sorts : ∀ sort ∈ config.sorts, sort.custom = none

/-- A valid request is answered with what was asked for, and any other with its violations,
    of which there are some. -/
def Served (config : Config σ ι) (request : Request) (result : Except Error α) : Prop :=
  (∃ query a, Query.ofRequest config request = .ok query ∧ result = .ok a) ∨
    ∃ violations, violations ≠ [] ∧
      Query.ofRequest config request = .error (.validation violations) ∧
      result = .error (.validation violations)

/-- An error that is not of the request's making serves nothing. -/
theorem not_served_of_error {config : Config σ ι} {request : Request} {result : Except Error α}
    {error : Error} (h : result = .error error)
    (hother : ∀ violations, error ≠ .validation violations) :
    ¬ Served config request result := by
  rintro (⟨query, a, -, hok⟩ | ⟨violations, -, -, hinvalid⟩)
  · rw [h] at hok
    cases hok
  · rw [h] at hinvalid
    exact hother violations (Except.error.inj hinvalid)

theorem Config.KnownRules.ofRequest_cases {config : Config σ ι} (h : config.KnownRules)
    (request : Request) :
    (∃ query, Query.ofRequest config request = .ok query) ∨
      ∃ violations, violations ≠ [] ∧
        Query.ofRequest config request = .error (.validation violations) := by
  obtain ⟨found, hfound⟩ := h.exists_violations request
  unfold Query.ofRequest
  rw [hfound]
  cases found with
  | nil => exact .inl ⟨_, rfl⟩
  | cons violation rest => exact .inr ⟨violation :: rest, List.cons_ne_nil _ _, rfl⟩

/-! ### Reliable sources -/

/-- An item can be shown: the listing shows items in a way of its own, or the item has a form
    for the detail, or it can be turned into JSON. -/
def Showable [Representable ι] (renderer : Option (ι → Json)) (detail : Detail) (item : ι) : Prop :=
  renderer.isSome = true ∨ (ownForm? item detail).isSome = true ∨
    ∃ value, Representable.serialise item = .ok value

/-- While the property holds, the source takes whatever a valid request can ask of it, and
    the items that it gives can be shown. -/
structure Reliable [Source σ ι] [Representable ι] (renderer : Option (ι → Json)) (detail : Detail)
    (P : σ → Prop) : Prop where
  addFilter : ∀ field kind op params, Applicable kind op params →
    Action.Succeeds P P (Source.addFilter field kind op params : Action σ Unit)
  addSort : ∀ field direction, Action.Succeeds P P (Source.addSort field direction : Action σ Unit)
  fetch : ∀ limit offset source, P source →
    ∃ page, (Source.fetch limit offset source).result = .ok page ∧
      ∀ item ∈ page.items, Showable renderer detail item

section Applying

variable [Source σ ι]

theorem FilterType.apply_of_custom_none {filter : FilterType σ} (h : filter.custom = none)
    (op : Operator) (params : List String) :
    filter.apply op params
      = (Action.record (.applyingFilter filter.name filter.fieldName op params false)).bind fun _ =>
        Source.addFilter filter.fieldName filter.kind op params := by
  unfold apply
  rw [h]
  rfl

theorem SortType.apply_of_custom_none {sort : SortType σ} (h : sort.custom = none)
    (direction : Direction) :
    sort.apply direction
      = (Action.record (.applyingSort sort.name sort.fieldName direction false)).bind fun _ =>
        Source.addSort sort.fieldName direction := by
  unfold apply
  rw [h]
  rfl

variable [Representable ι] {renderer : Option (ι → Json)} {detail : Detail} {P : σ → Prop}
  {config : Config σ ι}

theorem Reliable.succeeds_applyToken (h : Reliable renderer detail P) (hplain : config.Plain)
    {name text : String} {filter : FilterType σ} {op : Operator}
    (hfilter : config.filterType? name = some filter) (hop : (Token.ofText text).operator? = some op)
    (happlicable : Applicable filter.kind op (Token.ofText text).params) :
    Action.Succeeds P P (Query.applyToken config name text) := by
  have hcustom : filter.custom = none :=
    hplain.filters filter (List.mem_of_find?_eq_some hfilter)
  simp only [Query.applyToken, hfilter, hop]
  rw [FilterType.apply_of_custom_none hcustom]
  exact Action.succeeds_bind (Action.succeeds_record P _) fun _ => h.addFilter _ _ _ _ happlicable

theorem Reliable.succeeds_applySortKey (h : Reliable renderer detail P) (hplain : config.Plain)
    {key : String × Direction} {sort : SortType σ} (hsort : config.sortType? key.1 = some sort) :
    Action.Succeeds P P (Query.applySortKey config key) := by
  have hcustom : sort.custom = none := hplain.sorts sort (List.mem_of_find?_eq_some hsort)
  simp only [Query.applySortKey, hsort]
  rw [SortType.apply_of_custom_none hcustom]
  exact Action.succeeds_bind (Action.succeeds_record P _) fun _ => h.addSort _ _

/-- A query whose names and tokens resolve is applied from start to end. -/
theorem Reliable.succeeds_apply (h : Reliable renderer detail P) (hplain : config.Plain)
    {query : Query} (hresolved : query.Resolved config) : Action.Succeeds P P (query.apply config) := by
  refine Action.succeeds_all ?_
  intro step hmem
  rcases List.mem_append.1 hmem with hmem | hmem
  · obtain ⟨entry, hentry, hstep⟩ := List.mem_flatMap.1 hmem
    obtain ⟨text, htext, rfl⟩ := List.mem_map.1 hstep
    obtain ⟨filter, hfilter, op, hop, happlicable⟩ := hresolved.tokens entry.1 text
      (Request.Table.mem_carried_iff.2 ⟨entry, hentry, rfl, htext⟩)
    exact h.succeeds_applyToken hplain hfilter hop happlicable
  · obtain ⟨key, hkey, rfl⟩ := List.mem_map.1 hmem
    obtain ⟨sort, hsort⟩ := hresolved.sort key hkey
    exact h.succeeds_applySortKey hplain hsort

end Applying

/-! ### Assemblies over a reliable source -/

namespace Assembly

/-- What holds of an assembly in each phase while its source is reliable: it is never
    poisoned, and the source is as it should be until the document is made. -/
inductive Healthy (P : σ → Prop) (config : Config σ ι) (request : Request) :
    Assembly σ ι → Prop where
  | pending {source : σ} (ready : P source) :
      Healthy P config request ⟨config, request, source, .pending⟩
  | validated {source : σ} {query : Query} (ready : P source)
      (valid : Query.ofRequest config request = .ok query) :
      Healthy P config request ⟨config, request, source, .validated query⟩
  | applied {source : σ} {query : Query} (ready : P source)
      (valid : Query.ofRequest config request = .ok query) :
      Healthy P config request ⟨config, request, source, .applied query⟩
  | assembled {source : σ} {query : Query} {document : Document}
      (valid : Query.ofRequest config request = .ok query) :
      Healthy P config request ⟨config, request, source, .assembled document⟩

structure Checked (P : σ → Prop) (config : Config σ ι) (request : Request)
    (assembly : Assembly σ ι) : Prop where
  healthy : Healthy P config request assembly
  started : assembly.phase ≠ .pending

structure Fetchable (P : σ → Prop) (config : Config σ ι) (request : Request)
    (assembly : Assembly σ ι) : Prop extends Checked P config request assembly where
  applied : ∀ query, assembly.phase ≠ .validated query

/-- From healthy states the action succeeds and leads to states with the property, unless the
    request is not valid: then it gives the violations, and the state is still healthy. -/
def Serves (P : σ → Prop) (config : Config σ ι) (request : Request) (Q : Assembly σ ι → Prop)
    (action : Action (Assembly σ ι) α) : Prop :=
  ∀ assembly, Healthy P config request assembly →
    (∃ a, (action assembly).result = .ok a ∧ Q (action assembly).state) ∨
      ∃ violations, violations ≠ [] ∧
        Query.ofRequest config request = .error (.validation violations) ∧
        (action assembly).result = .error (.validation violations) ∧
        Healthy P config request (action assembly).state

section Healthy

variable {P : σ → Prop} {config : Config σ ι} {request : Request}

theorem Checked.valid {assembly : Assembly σ ι} (h : Checked P config request assembly) :
    ∃ query, Query.ofRequest config request = .ok query := by
  obtain ⟨h, hphase⟩ := h
  cases h with
  | pending ready => exact absurd rfl hphase
  | validated ready valid => exact ⟨_, valid⟩
  | applied ready valid => exact ⟨_, valid⟩
  | assembled valid => exact ⟨_, valid⟩

theorem serves_bind {Q R : Assembly σ ι → Prop} {first : Action (Assembly σ ι) α}
    {next : α → Action (Assembly σ ι) β} (hfirst : Serves P config request Q first)
    (hnext : ∀ a, Action.Succeeds Q R (next a)) :
    Serves P config request R (first.bind next) := by
  intro assembly h
  rcases hfirst assembly h with ⟨a, ha, hstate⟩ | ⟨violations, hne, hinvalid, herror, hstate⟩
  · obtain ⟨b, hb, hlast⟩ := hnext a _ hstate
    exact .inl ⟨b, (Action.result_bind_ok ha).trans hb, Action.state_bind_ok ha ▸ hlast⟩
  · refine .inr ⟨violations, hne, hinvalid, Action.result_bind_error herror, ?_⟩
    rw [Action.state_bind_error herror]
    exact hstate

theorem Serves.keeps {Q : Assembly σ ι → Prop} {action : Action (Assembly σ ι) α}
    (h : Serves P config request Q action)
    (hhealthy : ∀ assembly, Q assembly → Healthy P config request assembly) :
    Action.Keeps (Healthy P config request) action := by
  intro assembly hassembly
  rcases h assembly hassembly with ⟨_, _, hstate⟩ | ⟨_, _, _, _, hstate⟩
  · exact hhealthy _ hstate
  · exact hstate

theorem serves_validate (hknown : config.KnownRules) :
    Serves P config request (Checked P config request) validate := by
  intro assembly h
  cases h with
  | pending ready =>
    unfold validate
    rcases hknown.ofRequest_cases request with ⟨query, hquery⟩ | ⟨violations, hne, hquery⟩
    · rw [hquery]
      exact .inl ⟨(), rfl, .validated ready hquery, fun hphase => Phase.noConfusion hphase⟩
    · rw [hquery]
      exact .inr ⟨violations, hne, rfl, rfl, .pending ready⟩
  | validated ready valid =>
    exact .inl ⟨(), rfl, .validated ready valid, fun hphase => Phase.noConfusion hphase⟩
  | applied ready valid =>
    exact .inl ⟨(), rfl, .applied ready valid, fun hphase => Phase.noConfusion hphase⟩
  | assembled valid =>
    exact .inl ⟨(), rfl, .assembled valid, fun hphase => Phase.noConfusion hphase⟩

variable [Source σ ι] [Representable ι]

theorem succeeds_applyQuery {renderer : Option (ι → Json)} {detail : Detail}
    (hreliable : Reliable renderer detail P) (hplain : config.Plain) :
    Action.Succeeds (Checked P config request) (Fetchable P config request) applyQuery := by
  rintro assembly ⟨h, hphase⟩
  cases h with
  | pending ready => exact absurd rfl hphase
  | @validated source query ready valid =>
    have hresolved : query.Resolved config := Query.resolved_of_ofRequest valid
    obtain ⟨u, hu, hstate⟩ := hreliable.succeeds_apply hplain hresolved source ready
    unfold applyQuery
    simp only
    rw [hu]
    exact ⟨(), rfl, ⟨.applied hstate valid, fun h => Phase.noConfusion h⟩,
      fun _ h => Phase.noConfusion h⟩
  | applied ready valid =>
    exact ⟨(), rfl, ⟨.applied ready valid, hphase⟩, fun _ h => Phase.noConfusion h⟩
  | assembled valid =>
    exact ⟨(), rfl, ⟨.assembled valid, hphase⟩, fun _ h => Phase.noConfusion h⟩

omit [Source σ ι] in
theorem exists_mapM_renderItem {items : List ι} {renderer : Option (ι → Json)} {detail : Detail}
    (h : ∀ item ∈ items, Showable renderer detail item) :
    ∃ shown, items.mapM (renderItem renderer detail) = .ok shown := by
  refine exists_mapM_ok ?_
  intro item hmem
  unfold renderItem
  rcases h item hmem with hown | hform | ⟨value, hvalue⟩
  · obtain ⟨render, rfl⟩ := Option.isSome_iff_exists.1 hown
    exact ⟨render item, rfl⟩
  · obtain ⟨shown, hshown⟩ := Option.isSome_iff_exists.1 hform
    rw [hshown]
    cases renderer with
    | some render => exact ⟨_, rfl⟩
    | none => exact ⟨shown, rfl⟩
  · cases renderer with
    | some render => exact ⟨_, rfl⟩
    | none =>
      cases ownForm? item detail with
      | some shown => exact ⟨shown, rfl⟩
      | none => exact ⟨value, by rw [hvalue]⟩

theorem succeeds_fetchDocument
    (hreliable : Reliable config.renderer (Query.detailOf request) P) :
    Action.Succeeds (Fetchable P config request) (Checked P config request) fetchDocument := by
  rintro assembly ⟨⟨h, hphase⟩, hvalidated⟩
  cases h with
  | pending ready => exact absurd rfl hphase
  | validated ready valid => exact absurd rfl (hvalidated _)
  | @applied source query ready valid =>
    obtain ⟨page, hpage, hitems⟩ :=
      hreliable.fetch query.window.limit query.window.offset source ready
    have hdetail : query.detail = Query.detailOf request := by
      rw [(Query.ofRequest_eq_ok_iff.1 valid).2]
      rfl
    obtain ⟨shown, hshown⟩ := exists_mapM_renderItem hitems
    unfold fetchDocument
    simp only [hpage, hdetail, Except.bind, hshown, Except.map]
    exact ⟨_, rfl, .assembled valid, fun h => Phase.noConfusion h⟩
  | @assembled source query document valid => exact ⟨document, rfl, .assembled valid, hphase⟩

variable (hreliable : Reliable config.renderer (Query.detailOf request) P) (hplain : config.Plain)
  (hknown : config.KnownRules)

include hreliable hplain hknown

theorem serves_apply :
    Serves P config request (Fetchable P config request) apply :=
  serves_bind (serves_validate hknown) fun _ => succeeds_applyQuery hreliable hplain

theorem serves_assemble :
    Serves P config request (Checked P config request) assemble :=
  serves_bind (serves_apply hreliable hplain hknown) fun _ => succeeds_fetchDocument hreliable

theorem healthy_perform (call : Call) :
    Action.Keeps (Healthy P config request) (perform call) := by
  cases call with
  | validate =>
    have hkeeps : Action.Keeps (Healthy P config request) validate :=
      (serves_validate hknown).keeps fun _ h => h.healthy
    exact Action.keeps_bind hkeeps fun _ => Action.keeps_pure _ _
  | apply =>
    have hkeeps : Action.Keeps (Healthy P config request) apply :=
      (serves_apply hreliable hplain hknown).keeps fun _ h => h.healthy
    exact Action.keeps_bind hkeeps fun _ => Action.keeps_pure _ _
  | assemble =>
    have hkeeps : Action.Keeps (Healthy P config request) assemble :=
      (serves_assemble hreliable hplain hknown).keeps fun _ h => h.healthy
    exact Action.keeps_bind hkeeps fun _ => Action.keeps_pure _ _

/-- Over a reliable source every request is served, after any calls. -/
theorem served_of_reliable {source : σ} (hsource : P source) (calls : List Call) :
    Served config request (assemble (run calls (start config request source))).result := by
  have hhealthy : Healthy P config request (run calls (start config request source)) :=
    run_keeps (healthy_perform hreliable hplain hknown) calls (.pending hsource)
  rcases serves_assemble hreliable hplain hknown _ hhealthy with
    ⟨document, hresult, hchecked⟩ | ⟨violations, hne, hinvalid, hresult, -⟩
  · obtain ⟨query, hquery⟩ := hchecked.valid
    exact .inl ⟨query, document, hquery, hresult⟩
  · exact .inr ⟨violations, hne, hinvalid, hresult⟩

end Healthy

end Assembly

/-! ### The source in memory -/

namespace Memory

theorem mem_sortedView {memory : Memory ι} {entry : Entry ι} :
    entry ∈ memory.sortedView ↔ entry ∈ memory.view := by
  rw [sortedView, Sorting.sort_eq_mergeSort, List.mem_mergeSort]

/-- A filter with a predicate narrows the view by it. -/
theorem addFilter_of_predicate {op : Operator} {params : List String} {holds : Predicate}
    (h : predicate op params = .ok holds) (field : String) (kind : ValueKind) (memory : Memory ι) :
    (Source.addFilter field kind op params : Action (Memory ι) Unit) memory
      = ⟨memory.retain fun item => holds (valueAt item field), [], .ok ()⟩ := by
  change addFilter field op params memory = _
  rw [addFilter, h]

variable [Representable ι]

/-- Every item that passed the filters so far can be turned into JSON. -/
def Presentable (memory : Memory ι) : Prop :=
  ∀ entry ∈ memory.view, ∃ value, Representable.serialise entry.item = .ok value

theorem serialise_of_entry {item : ι} {position : Nat} {made : Entry ι}
    (h : entry item position = .ok made) : Representable.serialise made.item = .ok made.value := by
  unfold entry at h
  split at h
  · rename_i value hvalue
    cases h
    exact hvalue
  · cases h

/-- A source that was made of items shows all of them. -/
theorem presentable_ofItems {items : List ι} {memory : Memory ι} (h : ofItems items = .ok memory) :
    memory.Presentable := by
  obtain ⟨entries, hentries, rfl⟩ := Except.map_eq_ok_iff.1 h
  intro made hmem
  obtain ⟨pair, -, hpair⟩ := exists_of_forall₂ (mapM_eq_ok_iff.1 hentries).flip made hmem
  exact ⟨made.value, serialise_of_entry hpair⟩

theorem showable_page {memory : Memory ι} (h : memory.Presentable)
    (renderer : Option (ι → Json)) (detail : Detail) (limit offset : Nat) :
    ∀ item ∈ (memory.page limit offset).items, Showable renderer detail item := by
  intro item hmem
  obtain ⟨entry, hentry, rfl⟩ := List.mem_map.1 hmem
  exact .inr (.inr (h entry (mem_sortedView.1
    (List.mem_of_mem_drop (List.mem_of_mem_take hentry)))))

theorem reliable_presentable (renderer : Option (ι → Json)) (detail : Detail) :
    Reliable renderer detail (Presentable (ι := ι)) where
  addFilter := by
    intro field kind op params happlicable memory hmemory
    obtain ⟨holds, hholds⟩ := happlicable.exists_predicate
    rw [addFilter_of_predicate hholds]
    exact ⟨(), rfl, fun entry hmem => hmemory entry (List.mem_of_mem_filter hmem)⟩
  addSort := by
    intro field direction memory hmemory
    exact ⟨(), rfl, hmemory⟩
  fetch := by
    intro limit offset memory hmemory
    exact ⟨memory.page limit offset, rfl, showable_page hmemory renderer detail limit offset⟩

end Memory

/-! ### The source over a query -/

namespace Relational

/-- A filter with a condition adds it. -/
theorem addFilter_of_condition {field : String} {kind : ValueKind} {op : Operator}
    {params : List String} {e : Sql.Expr} (h : condition field kind op params = .ok e)
    (source : Relational ι) :
    (Source.addFilter field kind op params : Action (Relational ι) Unit) source
      = ⟨{ source with conditions := source.conditions ++ [e] }, [], .ok ()⟩ := by
  change addFilter field kind op params source = _
  rw [addFilter, h]

/-- The database answers the next two statements with a number and with these rows. -/
def Answers (source : Relational ι) (items : List ι) : Prop :=
  ∃ counted answered rest total, source.database.replies = counted :: answered :: rest ∧
    Database.countOf counted = .ok total ∧ Database.rowsOf source.columns answered = .ok items

theorem reliable_answers [Representable ι] {renderer : Option (ι → Json)} {detail : Detail}
    {items : List ι} (hitems : ∀ item ∈ items, Showable renderer detail item) :
    Reliable renderer detail fun source : Relational ι => source.Answers items where
  addFilter := by
    intro field kind op params happlicable source hsource
    obtain ⟨condition, hcondition⟩ := happlicable.exists_condition field
    rw [addFilter_of_condition hcondition]
    exact ⟨(), rfl, hsource⟩
  addSort := by
    intro field direction source hsource
    exact ⟨(), rfl, hsource⟩
  fetch := by
    rintro limit offset ⟨table, columns, base, conditions, order, ⟨replies, executed⟩⟩
      ⟨counted, answered, rest, total, hreplies, hcount, hrows⟩
    refine ⟨⟨items, total⟩, ?_, hitems⟩
    cases hreplies
    simp only [Source.fetch, fetch, bind, Action.bind, send, Database.send, Action.ofExcept, hcount,
      hrows, Action.record, pure, Action.pure]

end Relational

/-! ### A small listing -/

/-- A listing of parcels by size and colour, with rules of its own for sizes. -/
def parcels (σ ι : Type) : Config σ ι where
  filters := [⟨"size", none, some [.between, .isIn], some "min:1|max:9", .integer, none⟩,
    .named "colour"]
  sorts := [.named "size"]
  defaultSort := [("size", .desc)]
  renderer := none
  pageSizes := .usual
  faultless := rfl

/-- A request for the first of the smaller parcels of two colours. -/
def parcelsRequest : Request :=
  ⟨"/parcels", [("filters[size]", "between:2,5"), ("filter[colour]", "in:red,b|ue"),
    ("sort[size]", "asc"), ("limit", "1")]⟩

theorem plain_parcels : (parcels σ ι).Plain :=
  ⟨by simp [parcels, FilterType.named], by simp [parcels, SortType.named]⟩

theorem knownRules_parcels : (parcels σ ι).KnownRules := by
  intro filter hfilter rules hrules
  have hall : RuleCall.all "min:1|max:9" = [⟨"min", ["1"]⟩, ⟨"max", ["9"]⟩] := rfl
  simp only [parcels, List.mem_cons, List.not_mem_nil, or_false] at hfilter
  rcases hfilter with rfl | rfl
  · cases hrules
    intro call hcall
    rw [hall] at hcall
    simp only [List.mem_cons, List.not_mem_nil, or_false] at hcall
    rcases hcall with rfl | rfl <;> rfl
  · cases hrules

/-! ### Every request -/

namespace Assembly

/-- **No request makes the server fail.**  Over either source, whatever the request and
    whatever was called before, assembling gives a document or violations, as long as the items
    in memory can be turned into JSON, and as long as the database answers the count with a
    number and the page with rows that can be shown.  This rests on two facts: every token of a
    filter in which nothing is wrong is accepted by both backends, and every name in a query is
    the name of a type. -/
theorem every_request_served [Representable ι] (request : Request) (calls : List Call) :
    (∀ (config : Config (Memory ι) ι) (memory : Memory ι), config.Plain → config.KnownRules →
      memory.Presentable →
      Served config request (assemble (run calls (start config request memory))).result) ∧
    (∀ (config : Config (Relational ι) ι) (source : Relational ι) (items : List ι), config.Plain →
      config.KnownRules → source.Answers items →
      (∀ item ∈ items, Showable config.renderer (Query.detailOf request) item) →
      Served config request (assemble (run calls (start config request source))).result) ∧
    (∀ (config : Config σ ι) (key : String) (entry : String × List String),
      config.filterViolations key entry = .ok [] →
      ∃ filter, config.filterType? entry.1 = some filter ∧ ∀ text ∈ entry.2,
        ∃ op, (Token.ofText text).operator? = some op ∧
          (∃ holds, Memory.predicate op (Token.ofText text).params = .ok holds) ∧
          ∃ condition, Relational.condition filter.fieldName filter.kind op
            (Token.ofText text).params = .ok condition) ∧
    ∀ (config : Config σ ι) (query : Query), Query.ofRequest config request = .ok query →
      (∀ name ∈ query.filters.names, (config.filterType? name).isSome = true) ∧
        ∀ key ∈ query.sort, (config.sortType? key.1).isSome = true := by
  refine ⟨?_, ?_, ?_, ?_⟩
  · intro config memory hplain hknown hmemory
    exact served_of_reliable (Memory.reliable_presentable _ _) hplain hknown hmemory calls
  · intro config source items hplain hknown hsource hitems
    exact served_of_reliable (Relational.reliable_answers hitems) hplain hknown hsource calls
  · intro config key entry hnone
    obtain ⟨filter, hfilter, htokens⟩ := Config.exists_filterType_of_filterViolations hnone
    refine ⟨filter, hfilter, ?_⟩
    intro text hmem
    obtain ⟨op, hop, happlicable⟩ := htokens text hmem
    exact ⟨op, hop, happlicable.exists_predicate, happlicable.exists_condition _⟩
  · intro config query hquery
    obtain ⟨haccepts, rfl⟩ := Query.ofRequest_eq_ok_iff.1 hquery
    have hresolved := Query.resolved_of_accepts haccepts
    constructor
    · intro name hname
      exact Option.isSome_iff_exists.2 (hresolved.filters name hname)
    · intro key hkey
      exact Option.isSome_iff_exists.2 (hresolved.sort key hkey)

/-- A request with both spellings of the filters and a bar inside a token, served from memory
    and from a table. -/
theorem parcels_request_served :
    let row : Row := ⟨.object [("size", .ofNat 3)], none, none, none⟩
    let memory : Memory Row := ⟨[⟨0, row, row.value⟩], [⟨0, row, row.value⟩], []⟩
    let table : Relational Row := .ofTable ⟨"parcels", ["size"], none⟩ ⟨[.count 1, .rows [row]], []⟩
    Served (parcels (Memory Row) Row) parcelsRequest
        (assemble (run [.validate] (start (parcels _ _) parcelsRequest memory))).result ∧
      Served (parcels (Relational Row) Row) parcelsRequest
        (assemble (run [.validate] (start (parcels _ _) parcelsRequest table))).result ∧
      (∃ filter, (parcels Unit Row).filterType? "size" = some filter ∧
        ∀ text ∈ ["between:2,5"], ∃ op, (Token.ofText text).operator? = some op ∧
          (∃ holds, Memory.predicate op (Token.ofText text).params = .ok holds) ∧
          ∃ condition, Relational.condition filter.fieldName filter.kind op
            (Token.ofText text).params = .ok condition) ∧
      (∀ name ∈ (Query.read (parcels Unit Row) parcelsRequest).filters.names,
        ((parcels Unit Row).filterType? name).isSome = true) ∧
      ∀ key ∈ (Query.read (parcels Unit Row) parcelsRequest).sort,
        ((parcels Unit Row).sortType? key.1).isSome = true := by
  intro row memory table
  obtain ⟨hmemory, htable, htokens, hnames⟩ :=
    every_request_served (σ := Unit) (ι := Row) parcelsRequest [.validate]
  have hpresentable : memory.Presentable := by
    intro entry hmem
    cases List.mem_singleton.1 hmem
    exact ⟨row.value, rfl⟩
  have hshowable : ∀ item ∈ [row], Showable none (Query.detailOf parcelsRequest) item := by
    intro item hmem
    cases List.mem_singleton.1 hmem
    exact .inr (.inr ⟨row.value, rfl⟩)
  have hanswers : table.Answers [row] := ⟨.count 1, .rows [row], [], 1, rfl, rfl, rfl⟩
  have hnone : (parcels Unit Row).filterViolations "filters" ("size", ["between:2,5"]) = .ok [] := by
    decide +kernel
  have hvalid : (parcels Unit Row).violations parcelsRequest = .ok [] := by decide +kernel
  exact ⟨hmemory _ _ plain_parcels knownRules_parcels hpresentable,
    htable _ _ _ plain_parcels knownRules_parcels hanswers hshowable,
    htokens _ "filters" ("size", ["between:2,5"]) hnone,
    hnames _ _ (Query.ofRequest_eq_ok_iff.2 ⟨Config.violations_eq_nil_iff.1 hvalid, rfl⟩)⟩

/-- What a database can answer that is no failure of its own, and fails a request with which
    nothing is wrong: a row that cannot be turned into JSON, and a row where a number was asked
    for. -/
theorem unshown_row_fails :
    let whole : Row := ⟨.object [("size", .ofNat 4)], none, none, none⟩
    let torn : Row := ⟨.object [("size", .ofNat 3)], some "torn label", none, none⟩
    let request : Request := ⟨"/parcels", []⟩
    let answering (replies : List (Reply Row)) : Assembly (Relational Row) Row :=
      start (parcels _ _) request (.ofTable ⟨"parcels", ["size"], none⟩ ⟨replies, []⟩)
    (parcels (Relational Row) Row).Plain ∧ (parcels (Relational Row) Row).KnownRules ∧
      (assemble (answering [.count 1, .rows [torn]])).result
        = .error (.internal .renderItem (some (.stated "torn label"))) ∧
      (assemble (answering [.rows [whole], .rows [whole]])).result
        = .error (.database (.missingValue "num_items")) ∧
      ∀ replies ∈ [[.count 1, .rows [torn]], [.rows [whole], .rows [whole]]],
        ¬ Served (parcels (Relational Row) Row) request (assemble (answering replies)).result := by
  intro whole torn request answering
  have htorn : (assemble (answering [.count 1, .rows [torn]])).result
      = .error (.internal .renderItem (some (.stated "torn label"))) := by rfl
  have huncounted : (assemble (answering [.rows [whole], .rows [whole]])).result
      = .error (.database (.missingValue "num_items")) := by rfl
  refine ⟨plain_parcels, knownRules_parcels, htorn, huncounted, ?_⟩
  intro replies hmem
  simp only [List.mem_cons, List.not_mem_nil, or_false] at hmem
  rcases hmem with rfl | rfl
  · exact not_served_of_error htorn fun _ => Error.noConfusion
  · exact not_served_of_error huncounted fun _ => Error.noConfusion

end Assembly

end Listing
