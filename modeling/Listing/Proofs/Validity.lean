/-
  Listing/Proofs/Validity.lean
  ============================
  **What a request without violations satisfies.**

  `Accepts` collects the checks that a valid request has passed, one field for
  each part of the request.  What is left of such a request after reading is
  `Resolved`: every name in it is the name of a type, and every token can be
  applied, whichever spelling of the filters it came from.
-/
import Listing.Proofs.Tables
import Listing.Proofs.Tokens

namespace Listing

variable {σ ι : Type}

/-! ### Faultless settings -/

theorem Settings.fault?_eq_none_iff {settings : Settings σ ι} :
    settings.fault? = none ↔
      repeatedName? .filterType (settings.filters.map FilterType.name) = none ∧
        repeatedName? .sortType (settings.sorts.map SortType.name) = none ∧
        repeatedName? .defaultSort (settings.defaultSort.map Prod.fst) = none ∧
        strayDefaultSort? settings = none ∧ pageSizeFault? settings = none := by
  simp only [fault?, Option.or_eq_none_iff]

/-! ### Valid requests -/

/-- Nothing is wrong with any part of the request. -/
structure Config.Accepts (config : Config σ ι) (request : Request) : Prop where
  shapes : ∀ parameter ∈ Parameter.all, Parameter.shapeViolations request parameter = []
  values : ∀ parameter ∈ Parameter.all,
    Parameter.valueViolations config.validator config.pageSizes request parameter = .ok []
  filters : config.filterKeyViolations request "filters" = .ok []
  older : config.filterKeyViolations request "filter" = .ok []
  sorts : config.sortKeyViolations request = []

theorem Config.violations_eq_nil_iff {config : Config σ ι} {request : Request} :
    config.violations request = .ok [] ↔ config.Accepts request := by
  have hvalues : (∃ values, Parameter.all.mapM
        (Parameter.valueViolations config.validator config.pageSizes request) = .ok values ∧
          values.flatten = []) ↔
      ∀ parameter ∈ Parameter.all,
        Parameter.valueViolations config.validator config.pageSizes request parameter = .ok [] := by
    rw [← flatten_mapM_eq_nil_iff, Except.map_eq_ok_iff]
  unfold violations
  simp only [Except.bind_eq_ok_iff, pure, Except.pure, Except.ok.injEq, List.append_eq_nil_iff,
    List.flatMap_eq_nil_iff]
  constructor
  · rintro ⟨values, hmap, filters, hfilters, older, holder, ⟨⟨⟨hshapes, hempty⟩, rfl⟩, rfl⟩, hsorts⟩
    exact ⟨hshapes, hvalues.1 ⟨values, hmap, hempty⟩, hfilters, holder, hsorts⟩
  · intro h
    obtain ⟨values, hmap, hempty⟩ := hvalues.2 h.values
    exact ⟨values, hmap, [], h.filters, [], h.older, ⟨⟨⟨h.shapes, hempty⟩, rfl⟩, rfl⟩, h.sorts⟩

/-- A request is valid exactly when nothing is wrong with it, and it is read in one way
    only. -/
theorem Query.ofRequest_eq_ok_iff {config : Config σ ι} {request : Request} {query : Query} :
    ofRequest config request = .ok query ↔
      config.Accepts request ∧ query = read config request := by
  rw [← Config.violations_eq_nil_iff]
  unfold ofRequest
  split
  · rename_i hviolations
    simp [hviolations]
  · rename_i hviolations
    simp [hviolations, eq_comm]
  · rename_i violations hne hviolations
    constructor
    · intro h
      cases h
    · rintro ⟨hnil, -⟩
      rw [hviolations] at hnil
      exact absurd (Except.ok.inj hnil) fun h => hne (h ▸ rfl)

/-! ### Filters and sort keys of a valid request -/

namespace Config

variable {config : Config σ ι} {request : Request}

theorem filterKeyViolations_eq_nil_iff {key : String} :
    config.filterKeyViolations request key = .ok [] ↔
      request.map key ≠ .malformed ∧
        ∀ entry ∈ Query.entries request key, config.filterViolations key entry = .ok [] := by
  unfold filterKeyViolations Query.entries
  cases request.map key with
  | absent => simp
  | malformed => simp
  | table entries => simp [flatten_mapM_eq_nil_iff]

/-- A filter in which nothing is wrong has a type, and nothing is wrong with its tokens. -/
theorem exists_checked_of_filterViolations {key : String} {entry : String × List String}
    (h : config.filterViolations key entry = .ok []) :
    ∃ filter, config.filterType? entry.1 = some filter ∧ ∀ text ∈ entry.2,
      ∃ field, config.tokenViolations filter field text = .ok [] := by
  unfold filterViolations at h
  cases hfilter : config.filterType? entry.1 with
  | none =>
    simp only [hfilter] at h
    cases h
  | some filter =>
    simp only [hfilter] at h
    have htokens := flatten_mapM_eq_nil_iff.1 h
    refine ⟨filter, rfl, ?_⟩
    intro text hmem
    obtain ⟨i, hi, htext⟩ := List.getElem_of_mem hmem
    have hnumbered : (text, i) ∈ entry.2.zipIdx := by
      rw [List.mem_zipIdx_iff_getElem?, ← htext]
      exact List.getElem?_eq_getElem hi
    exact ⟨_, htokens (text, i) hnumbered⟩

/-- A filter in which nothing is wrong has a type, and its tokens can be applied. -/
theorem exists_filterType_of_filterViolations {key : String} {entry : String × List String}
    (h : config.filterViolations key entry = .ok []) :
    ∃ filter, config.filterType? entry.1 = some filter ∧ ∀ text ∈ entry.2,
      ∃ op, (Token.ofText text).operator? = some op ∧
        Applicable filter.kind op (Token.ofText text).params := by
  obtain ⟨filter, hfilter, htokens⟩ := exists_checked_of_filterViolations h
  refine ⟨filter, hfilter, ?_⟩
  intro text hmem
  obtain ⟨field, hnone⟩ := htokens text hmem
  exact applicable_of_tokenViolations hnone

theorem exists_sortType_of_sortViolations {entry : String × List String}
    (h : config.sortViolations entry = []) :
    ∃ sort, config.sortType? entry.1 = some sort := by
  unfold sortViolations at h
  cases hsort : config.sortType? entry.1 with
  | none => simp [hsort] at h
  | some sort => exact ⟨sort, rfl⟩

theorem exists_direction_of_sortViolations {entry : String × List String}
    (h : config.sortViolations entry = []) :
    ∃ direction, direction? entry.2 = some direction := by
  obtain ⟨sort, hsort⟩ := exists_sortType_of_sortViolations h
  unfold sortViolations at h
  cases hdirection : direction? entry.2 with
  | none => simp [hsort, hdirection] at h
  | some direction => exact ⟨direction, rfl⟩

theorem sortKeyViolations_eq_nil_iff :
    config.sortKeyViolations request = [] ↔
      request.map "sort" ≠ .malformed ∧
        ∀ entry ∈ Query.entries request "sort", config.sortViolations entry = [] := by
  unfold sortKeyViolations Query.entries
  cases request.map "sort" with
  | absent => simp
  | malformed => simp
  | table entries => simp

/-- Every default sort key names a sort type. -/
theorem exists_sortType_of_mem_defaultSort {key : String × Direction}
    (h : key ∈ config.defaultSort) : ∃ sort, config.sortType? key.1 = some sort := by
  have hstray : config.toSettings.strayDefaultSort? = none :=
    (Settings.fault?_eq_none_iff.1 config.faultless).2.2.2.1
  simp only [Settings.strayDefaultSort?, Option.map_eq_none_iff, List.find?_eq_none] at hstray
  have hknown := hstray key.1 (List.mem_map_of_mem h)
  simp only [Bool.not_eq_true, Bool.not_eq_false', List.contains_iff_mem, List.mem_map] at hknown
  obtain ⟨sort, hmem, hname⟩ := hknown
  exact Option.isSome_iff_exists.1 (List.find?_isSome.2 ⟨sort, hmem, beq_iff_eq.2 hname⟩)

end Config

namespace Query

/-- Every name in the query is the name of a type, and every token can be applied. -/
structure Resolved (config : Config σ ι) (query : Query) : Prop where
  filters : ∀ name ∈ query.filters.names, ∃ filter, config.filterType? name = some filter
  tokens : ∀ name text, (name, text) ∈ query.filters.carried →
    ∃ filter, config.filterType? name = some filter ∧
      ∃ op, (Token.ofText text).operator? = some op ∧
        Applicable filter.kind op (Token.ofText text).params
  sort : ∀ key ∈ query.sort, ∃ sort, config.sortType? key.1 = some sort

section Reading

variable {config : Config σ ι} {request : Request}

/-- A filter of a valid request stands under one of the two spellings, where it was
    checked. -/
theorem filterViolations_of_accepts (h : config.Accepts request)
    {entry : String × List String}
    (hmem : entry ∈ entries request "filters" ∨ entry ∈ entries request "filter") :
    ∃ key, config.filterViolations key entry = .ok [] := by
  rcases hmem with hmem | hmem
  · exact ⟨"filters", (Config.filterKeyViolations_eq_nil_iff.1 h.filters).2 entry hmem⟩
  · exact ⟨"filter", (Config.filterKeyViolations_eq_nil_iff.1 h.older).2 entry hmem⟩

/-- A token among the filters of a request stands under one of the two spellings. -/
theorem exists_entry_of_mem_carried {name text : String}
    (h : (name, text) ∈ (filtersOf request).carried) :
    ∃ entry, (entry ∈ entries request "filters" ∨ entry ∈ entries request "filter") ∧
      entry.1 = name ∧ text ∈ entry.2 := by
  rcases List.mem_append.1 ((perm_carried_filtersOf request).mem_iff.1 h) with h | h
  · obtain ⟨entry, hmem, hname, htext⟩ := Request.Table.mem_carried_iff.1 h
    exact ⟨entry, .inl hmem, hname, htext⟩
  · obtain ⟨entry, hmem, hname, htext⟩ := Request.Table.mem_carried_iff.1 h
    exact ⟨entry, .inr hmem, hname, htext⟩

/-- Nothing is wrong with any token of a valid request. -/
theorem exists_checked_of_accepts (h : config.Accepts request) {name text : String}
    (hcarried : (name, text) ∈ (filtersOf request).carried) :
    ∃ filter, config.filterType? name = some filter ∧
      ∃ field, config.tokenViolations filter field text = .ok [] := by
  obtain ⟨entry, hentry, rfl, htext⟩ := exists_entry_of_mem_carried hcarried
  obtain ⟨key, hkey⟩ := filterViolations_of_accepts h hentry
  obtain ⟨filter, hfilter, htokens⟩ := Config.exists_checked_of_filterViolations hkey
  exact ⟨filter, hfilter, htokens text htext⟩

theorem mem_entries_of_mem_requestedSort {key : String × Direction}
    (h : key ∈ requestedSort request) : ∃ words, (key.1, words) ∈ entries request "sort" := by
  obtain ⟨⟨name, words⟩, hmem, hkey⟩ := List.mem_filterMap.1 h
  obtain ⟨direction, -, rfl⟩ := Option.map_eq_some_iff.1 hkey
  exact ⟨words, hmem⟩

/-- Every name and token of a valid request resolves. -/
theorem resolved_of_accepts (h : config.Accepts request) : Resolved config (read config request) where
  filters := by
    intro name hname
    obtain ⟨entry, hentry, rfl⟩ : ∃ entry, (entry ∈ entries request "filters" ∨
        entry ∈ entries request "filter") ∧ entry.1 = name := by
      rcases mem_names_merge.1 hname with hname | hname
      · obtain ⟨entry, hmem, heq⟩ := List.mem_map.1 hname
        exact ⟨entry, .inl hmem, heq⟩
      · obtain ⟨entry, hmem, heq⟩ := List.mem_map.1 hname
        exact ⟨entry, .inr hmem, heq⟩
    obtain ⟨key, hkey⟩ := filterViolations_of_accepts h hentry
    obtain ⟨filter, hfilter, -⟩ := Config.exists_filterType_of_filterViolations hkey
    exact ⟨filter, hfilter⟩
  tokens := by
    intro name text hcarried
    obtain ⟨filter, hfilter, field, hnone⟩ := exists_checked_of_accepts h hcarried
    exact ⟨filter, hfilter, Config.applicable_of_tokenViolations hnone⟩
  sort := by
    intro key hkey
    have hsort : key ∈ sortOf config request := hkey
    unfold sortOf at hsort
    split at hsort
    · exact Config.exists_sortType_of_mem_defaultSort hsort
    · obtain ⟨words, hmem⟩ := mem_entries_of_mem_requestedSort hsort
      exact Config.exists_sortType_of_sortViolations
        ((Config.sortKeyViolations_eq_nil_iff.1 h.sorts).2 _ hmem)

theorem resolved_of_ofRequest {query : Query} (h : ofRequest config request = .ok query) :
    query.Resolved config := by
  obtain ⟨haccepts, rfl⟩ := ofRequest_eq_ok_iff.1 h
  exact resolved_of_accepts haccepts

end Reading

end Query

end Listing
