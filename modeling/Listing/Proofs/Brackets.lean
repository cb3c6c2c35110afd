/-
  Listing/Proofs/Brackets.lean
  ============================
  **Single values that are given in brackets.**

  A parameter of one value is checked twice: its shape is wrong when it is given in
  brackets only, and its last plain value may break the rules.  Brackets next to a
  plain value are not looked at, so a request with both is rejected for the plain
  value or not at all (`bracketed_rejected_iff`).  A link to another page leaves the
  plain page number out and keeps what stands in brackets; where brackets were passed
  over, the link is rejected (`link_rejected`).
-/
import Listing.Proofs.Separation

namespace Listing

variable {σ ι : Type}

namespace Request

/-- A parameter is given in brackets, whatever else is given. -/
def Brackets (request : Request) (name : String) : Prop :=
  ∃ pair ∈ request.pairs, baseName pair.1 = name ∧ '[' ∈ pair.1.toList

theorem Brackets.has_eq {request : Request} {name : String} (h : request.Brackets name) :
    request.has name = true := by
  obtain ⟨pair, hmem, hname, -⟩ := h
  exact List.any_eq_true.2 ⟨pair, hmem, beq_iff_eq.2 hname⟩

/-- A key is its own base name exactly when it has no brackets. -/
theorem baseName_eq_self_iff {key : String} : baseName key = key ↔ '[' ∉ key.toList := by
  unfold baseName
  split
  · rename_i base rest hcut
    have hkey := Text.eq_append_of_cut? hcut
    refine iff_of_false ?_ (fun hnone => hnone (by simp [hkey]))
    intro hself
    rw [← hself, String.toList_ofList] at hkey
    simp at hkey
  · rename_i hcut
    exact iff_of_true rfl (Text.cut?_eq_none_iff.1 hcut)

theorem bracketsPage_iff {request : Request} :
    request.bracketsPage = true ↔ request.Brackets "page" := by
  simp only [bracketsPage, Brackets, List.any_eq_true, Bool.and_eq_true, beq_iff_eq, bne_iff_ne]
  refine exists_congr fun pair => and_congr_right fun _ => and_congr_right fun hname => ?_
  rw [← hname, ← not_iff_not, not_not, ← baseName_eq_self_iff, eq_comm]

/-- Pairs in brackets stay when the offset is replaced. -/
theorem Brackets.atOffset {request : Request} {name : String} (h : request.Brackets name)
    (offset : Nat) : (request.atOffset offset).Brackets name := by
  obtain ⟨pair, hmem, hname, hbracket⟩ := h
  have hkept : pair ∈ (request.atOffset offset).pairs.filter (·.1.toList.contains '[') := by
    refine (filter_replaceOffset ?_ ?_ false request.pairs).symm ▸ ?_
    · exact fun _ => (by decide : "page".toList.contains '[' = false)
    · exact fun _ => (by decide : "offset".toList.contains '[' = false)
    · exact List.mem_filter.2 ⟨hmem, List.contains_iff_mem.2 hbracket⟩
  exact ⟨pair, (List.mem_filter.1 hkept).1, hname, hbracket⟩

end Request

/-- Validation fails with an error on a parameter. -/
def Query.Rejects (config : Config σ ι) (request : Request) (parameter : Parameter) : Prop :=
  ∃ found, ofRequest config request = .error (.validation found) ∧
    ∃ violation ∈ found, violation.field = parameter.key

theorem Query.ofRequest_eq_validation_iff {config : Config σ ι} {request : Request}
    {found : List Violation} :
    ofRequest config request = .error (.validation found) ↔
      config.violations request = .ok found ∧ found ≠ [] := by
  unfold ofRequest
  split
  · rename_i hviolations
    simp [hviolations]
  · rename_i hviolations
    simp +contextual [hviolations]
  · rename_i violations hne hviolations
    simp only [hviolations, Except.error.injEq, Error.validation.injEq, Except.ok.injEq]
    constructor
    · rintro rfl
      exact ⟨rfl, fun hnil => hne (hnil ▸ rfl)⟩
    · exact And.left

namespace Config

variable {config : Config σ ι} {request : Request} {parameter : Parameter}

/-! ### What is found about a single value -/

theorem found_shapeCheck (request : Request) (parameter : Parameter) :
    (shapeCheck parameter).found request = Parameter.shapeViolations request parameter := rfl

/-- A plain value is found fault with when it breaks the rules. -/
theorem found_valueCheck_eq_nil_iff :
    (config.valueCheck parameter).found request = [] ↔
      ∀ value, request.get? parameter.key = some value →
        config.validator.check parameter.key value (parameter.rules config.pageSizes)
          = .ok none := by
  simp only [Check.found, valueCheck, Parameter.valueViolations]
  cases hget : request.get? parameter.key with
  | none => simp [Except.toOption]
  | some value =>
    obtain ⟨verdict, hverdict⟩ :=
      Validator.exists_check parameter.key value (config.knows_rules parameter)
    simp only [hverdict, Option.some.injEq, forall_eq']
    cases verdict <;> simp [Except.toOption, Except.map]

theorem field_of_mem_found {violation : Violation}
    (h : violation ∈ (shapeCheck parameter).found request
      ++ (config.valueCheck parameter).found request) : violation.field = parameter.key := by
  rcases List.mem_append.1 h with hshape | hvalue
  · rw [found_shapeCheck, Parameter.shapeViolations] at hshape
    split at hshape
    · rw [List.mem_singleton.1 hshape]
    · cases hshape
  · obtain ⟨value, hcheck⟩ := exists_check_of_mem_value (Check.run_of_mem_found hvalue) hvalue
    exact Validator.field_of_check hcheck

/-- All that is found about a parameter of one value is what its two checks find. -/
theorem filter_isAbout_key {found : List Violation} (h : config.violations request = .ok found)
    (parameter : Parameter) :
    found.filter (Violation.isAbout parameter.key)
      = (shapeCheck parameter).found request ++ (config.valueCheck parameter).found request := by
  rw [violations_eq_flatMap h, filter_flatMap_found (fun _ => confined_of_mem_checks)
    (fun _ => name_mem_of_mem_checks) (Request.key_mem_checkedNames parameter), filter_checks_key,
    List.flatMap_cons, List.flatMap_singleton]

theorem exists_field_iff {found : List Violation} (h : config.violations request = .ok found) :
    (∃ violation ∈ found, violation.field = parameter.key) ↔
      (shapeCheck parameter).found request ++ (config.valueCheck parameter).found request ≠ [] := by
  have hfilter := filter_isAbout_key h parameter
  constructor
  · rintro ⟨violation, hmem, hfield⟩
    have habout := Violation.isAbout_iff.2 (.inl hfield)
    exact List.ne_nil_of_mem (hfilter ▸ List.mem_filter.2 ⟨hmem, habout⟩)
  · intro hne
    obtain ⟨violation, hmem⟩ := List.exists_mem_of_ne_nil _ hne
    exact ⟨violation, List.mem_of_mem_filter (hfilter ▸ hmem), field_of_mem_found hmem⟩

/-! ### Brackets -/

/-- Brackets are found fault with when there is no plain value. -/
theorem found_shapeCheck_of_brackets (h : request.Brackets parameter.key) :
    (shapeCheck parameter).found request
      = if request.get? parameter.key = none then [⟨parameter.key, .notSingle⟩] else [] := by
  rw [found_shapeCheck, Parameter.shapeViolations, h.has_eq, Bool.and_true]
  simp only [Option.isNone_iff_eq_none]

theorem exists_field_iff_of_brackets {found : List Violation}
    (h : config.violations request = .ok found) (hbrackets : request.Brackets parameter.key) :
    (∃ violation ∈ found, violation.field = parameter.key) ↔
      ∀ value, request.get? parameter.key = some value →
        config.validator.check parameter.key value (parameter.rules config.pageSizes)
          ≠ .ok none := by
  rw [exists_field_iff h, Ne, List.append_eq_nil_iff, found_shapeCheck_of_brackets hbrackets,
    found_valueCheck_eq_nil_iff]
  cases request.get? parameter.key with
  | none => simp
  | some value => simp

end Config

namespace Query

open Config

variable {config : Config σ ι} {request : Request} {parameter : Parameter}

theorem rejects_iff :
    Rejects config request parameter ↔
      ∃ found, config.violations request = .ok found ∧
        ∃ violation ∈ found, violation.field = parameter.key := by
  refine exists_congr fun found => ?_
  rw [ofRequest_eq_validation_iff, and_assoc]
  refine and_congr_right fun _ => and_iff_right_of_imp ?_
  rintro ⟨violation, hmem, -⟩
  exact List.ne_nil_of_mem hmem

/-- **Brackets are rejected unless a plain value hides them.**  A parameter of one value that is
    given in brackets is reported exactly if validation ends, which it does when the names of
    all rules are known, and if the last plain value, should there be one, breaks the rules.
    Without a plain value the report is that the parameter must be a single value. -/
theorem bracketed_rejected_iff (h : request.Brackets parameter.key) :
    (Rejects config request parameter ↔
      (∃ found, config.violations request = .ok found) ∧
        ∀ value, request.get? parameter.key = some value →
          config.validator.check parameter.key value (parameter.rules config.pageSizes)
            ≠ .ok none) ∧
    (config.KnownRules → ∃ found, config.violations request = .ok found) ∧
    ∀ found, config.violations request = .ok found → request.get? parameter.key = none →
      ⟨parameter.key, .notSingle⟩ ∈ found := by
  refine ⟨?_, fun hknown => hknown.exists_violations request, ?_⟩
  · rw [rejects_iff]
    constructor
    · rintro ⟨found, hfound, hfield⟩
      exact ⟨⟨found, hfound⟩, (exists_field_iff_of_brackets hfound h).1 hfield⟩
    · rintro ⟨⟨found, hfound⟩, hplain⟩
      exact ⟨found, hfound, (exists_field_iff_of_brackets hfound h).2 hplain⟩
  · intro found hfound hnone
    have hmem : ⟨parameter.key, .notSingle⟩ ∈ found.filter (Violation.isAbout parameter.key) := by
      rw [filter_isAbout_key hfound, found_shapeCheck_of_brackets h, if_pos hnone]
      exact List.mem_append_left _ List.mem_cons_self
    exact List.mem_of_mem_filter hmem

/-- Brackets before, between and after other parameters: the page number is rejected for them, the
    offset for its plain value. -/
theorem bracketed_page_rejected :
    let config := parcels (Memory Row) Row
    let request : Request :=
      ⟨"/parcels", [("page[2]", "x"), ("offset", "first"), ("limit", "5"), ("offset[]", "7")]⟩
    Rejects config request .page ∧ Rejects config request .offset := by
  intro config request
  have hpage : request.Brackets (Parameter.key .page) := by
    exact ⟨("page[2]", "x"), by simp [request], by decide, by decide⟩
  have hoffset : request.Brackets (Parameter.key .offset) := by
    exact ⟨("offset[]", "7"), by simp [request], by decide, by decide⟩
  have hfound : ∃ found, config.violations request = .ok found :=
    (bracketed_rejected_iff hpage).2.1 knownRules_parcels
  refine ⟨(bracketed_rejected_iff hpage).1.2 ⟨hfound, ?_⟩,
    (bracketed_rejected_iff hoffset).1.2 ⟨hfound, ?_⟩⟩
  · intro value hvalue
    cases hvalue
  · intro value hvalue
    cases hvalue
    decide +kernel

/-- A plain value next to the brackets is enough: the request is accepted. -/
theorem plain_limit_hides_brackets :
    let config := parcels (Memory Row) Row
    let request : Request := ⟨"/parcels", [("limit", "5"), ("limit[]", "9")]⟩
    request.Brackets "limit" ∧ (∃ query, ofRequest config request = .ok query) ∧
      ¬ Rejects config request .limit := by
  intro config request
  have hnone : config.violations request = .ok [] := by decide +kernel
  refine ⟨⟨("limit[]", "9"), by simp [request], by decide, by decide⟩, ?_, ?_⟩
  · exact (exists_query_iff hnone).2 rfl
  · rw [rejects_iff]
    rintro ⟨found, hfound, violation, hmem, -⟩
    cases Except.ok.inj (hnone.symm.trans hfound)
    cases hmem

/-! ### Links -/

/-- **What was passed over comes up in the links.**  When a request is accepted although its page
    number is given in brackets too, every link that is made of it is rejected. -/
theorem link_rejected {query : Query} (hvalid : ofRequest config request = .ok query)
    (h : request.bracketsPage = true) (offset : Nat) :
    Rejects config (request.atOffset offset) .page := by
  obtain ⟨haccepts, -⟩ := ofRequest_eq_ok_iff.1 hvalid
  have hfilters : ∀ {key}, key ≠ "page" → key ≠ "offset" →
      config.filterKeyViolations (request.atOffset offset) key
        = config.filterKeyViolations request key := by
    intro key hpage hoffset
    exact filterKeyViolations_atOffset hpage hoffset
  obtain ⟨values, hvalues⟩ := exists_mapM_ok fun parameter (_ : parameter ∈ Parameter.all) =>
    exists_valueViolations config (request.atOffset offset) parameter
  have hends : ∃ found, config.violations (request.atOffset offset) = .ok found := by
    simp only [violations, Except.bind_eq_ok_iff]
    exact ⟨_, values, hvalues, [], (hfilters (by decide) (by decide)).trans haccepts.filters, [],
      (hfilters (by decide) (by decide)).trans haccepts.older, rfl⟩
  obtain ⟨found, hfound⟩ := hends
  have hbrackets : (request.atOffset offset).Brackets (Parameter.key .page) :=
    (Request.bracketsPage_iff.1 h).atOffset offset
  refine rejects_iff.2 ⟨found, hfound, (exists_field_iff_of_brackets hfound hbrackets).2 ?_⟩
  intro value hvalue
  have hplain := Request.get?_page_atOffset request offset
  cases hplain.symm.trans hvalue

end Query

end Listing
