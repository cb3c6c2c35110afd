/-
  Listing/Proofs/Verdicts.lean
  ============================
  **Checks that come to a verdict.**

  A check stops without a verdict only at a name that is no rule.  When every name
  in a rule string is known it therefore ends (`exists_check`), and when all rule
  strings of a listing are of that kind, so does the validation of any request
  (`exists_violations`).  Nothing that a request says gets into a rule string.
-/
import Listing.Proofs.Results
import Listing.Proofs.Rules

namespace Listing

variable {σ ι : Type}

/-! ### One value -/

theorem Rule.ofTest_eq_none_iff {complaint : Complaint} {passes : List Char → Bool}
    {field value : String} {arguments : List String} :
    ofTest complaint passes field value arguments = none ↔
      passes (Text.trim value.toList) = true := by
  simp [ofTest]

namespace Validator

variable {validator : Validator} {field value : String}

theorem run_eq_none_iff {calls : List RuleCall} :
    validator.run field value calls = .ok none ↔
      ∀ call ∈ calls, ∃ rule, validator.rule? call.name = some rule ∧
        rule field value call.arguments = none := by
  induction calls with
  | nil => simp [run]
  | cons call rest ih =>
    rw [run, List.forall_mem_cons, ← ih]
    cases hrule : validator.rule? call.name with
    | none => simp
    | some rule =>
      cases hverdict : rule field value call.arguments with
      | none => simp [hverdict]
      | some complaint => simp [hverdict]

theorem check_eq_none_iff {rules : String} :
    validator.check field value rules = .ok none ↔
      ∀ call ∈ RuleCall.all rules, ∃ rule, validator.rule? call.name = some rule ∧
        rule field value call.arguments = none := by
  rw [← run_eq_none_iff, check, Except.map_eq_ok_iff]
  simp only [Option.map_eq_none_iff, exists_eq_right]

/-- What a check finds is about the field that was checked. -/
theorem field_of_check {rules : String} {violation : Violation}
    (h : validator.check field value rules = .ok (some violation)) : violation.field = field := by
  obtain ⟨verdict, -, hverdict⟩ := Except.map_eq_ok_iff.1 h
  obtain ⟨complaint, -, rfl⟩ := Option.map_eq_some_iff.1 hverdict
  rfl

/-- Every name in a rule string is the name of a rule. -/
def Knows (validator : Validator) (rules : String) : Prop :=
  ∀ call ∈ RuleCall.all rules, (validator.rule? call.name).isSome = true

theorem exists_run (field value : String) {calls : List RuleCall}
    (h : ∀ call ∈ calls, (validator.rule? call.name).isSome = true) :
    ∃ verdict, validator.run field value calls = .ok verdict := by
  induction calls with
  | nil => exact ⟨none, rfl⟩
  | cons call rest ih =>
    obtain ⟨hknown, hrest⟩ := List.forall_mem_cons.1 h
    obtain ⟨rule, hrule⟩ := Option.isSome_iff_exists.1 hknown
    cases hverdict : rule field value call.arguments with
    | none =>
      obtain ⟨verdict, hrun⟩ := ih hrest
      exact ⟨verdict, by simp only [run, hrule, hverdict, hrun]⟩
    | some complaint => exact ⟨some complaint, by simp only [run, hrule, hverdict]⟩

theorem exists_check (field value : String) {rules : String} (h : validator.Knows rules) :
    ∃ verdict, validator.check field value rules = .ok verdict := by
  obtain ⟨verdict, hrun⟩ := exists_run field value h
  exact ⟨verdict.map (Violation.mk field), by rw [check, hrun]; rfl⟩

end Validator

/-! ### A whole request -/

namespace Config

variable {config : Config σ ι} {request : Request}

/-- The rules of a listing's own hide no standard one. -/
theorem rule?_standard (config : Config σ ι) {name : String} (htype : name ≠ "filter_type")
    (hcount : name ≠ "filter_param_count") :
    config.validator.rule? name = Rule.standard.lookup name := by
  have htype' : (name == "filter_type") = false := beq_eq_false_iff_ne.2 htype
  have hcount' : (name == "filter_param_count") = false := beq_eq_false_iff_ne.2 hcount
  simp only [validator, Validator.rule?, Validator.define, Validator.standard, List.lookup_cons,
    List.lookup_nil, htype', hcount', Option.none_or]

/-- The rule strings of the filters name only rules that the listing knows. -/
def KnownRules (config : Config σ ι) : Prop :=
  ∀ filter ∈ config.filters, ∀ rules ∈ filter.rules, config.validator.Knows rules

theorem knows_kind_rule (config : Config σ ι) {kind : ValueKind} {rules : String}
    (h : kind.rule? = some rules) : config.validator.Knows rules := by
  intro call hmem
  cases kind with
  | text => cases h
  | integer | float | boolean =>
    cases h
    cases List.mem_singleton.1 hmem
    rw [config.rule?_standard (by decide) (by decide)]
    rfl

theorem KnownRules.knows_paramRules (h : config.KnownRules) {filter : FilterType σ}
    (hmem : filter ∈ config.filters) : config.validator.Knows filter.paramRules := by
  intro call hcall
  rw [FilterType.all_paramRules, List.mem_flatMap] at hcall
  obtain ⟨rules, hrules, hcall⟩ := hcall
  rcases List.mem_append.1 hrules with hrules | hrules
  · exact knows_kind_rule config (Option.mem_toList.1 hrules) call hcall
  · exact h filter hmem rules (Option.mem_toList.1 hrules) call hcall

theorem name_mem_of_mem_rules {sizes : PageSizes} {parameter : Parameter} {call : RuleCall}
    (h : call ∈ RuleCall.all (parameter.rules sizes)) :
    call.name ∈ ["integer", "min", "max", "in"] := by
  cases hbounds : parameter.bounds? sizes with
  | some bounds =>
    rw [Parameter.all_rules hbounds] at h
    simp only [List.mem_cons, List.not_mem_nil, or_false] at h
    rcases h with rfl | rfl | rfl <;> simp
  | none =>
    cases parameter with
    | fields =>
      have hall : RuleCall.all "in:all,full,brief" = [⟨"in", ["all", "full", "brief"]⟩] := rfl
      rw [Parameter.rules, hall, List.mem_singleton] at h
      simp [h]
    | limit | offset | page | pageSize => cases hbounds

theorem knows_rules (config : Config σ ι) (parameter : Parameter) :
    config.validator.Knows (parameter.rules config.pageSizes) := by
  intro call hmem
  have hname := name_mem_of_mem_rules hmem
  simp only [List.mem_cons, List.not_mem_nil, or_false] at hname
  rcases hname with hname | hname | hname | hname
  all_goals
    rw [hname, config.rule?_standard (by decide) (by decide)]
    rfl

theorem exists_valueViolations (config : Config σ ι) (request : Request) (parameter : Parameter) :
    ∃ found, Parameter.valueViolations config.validator config.pageSizes request parameter
      = .ok found := by
  unfold Parameter.valueViolations
  cases request.get? parameter.key with
  | none => exact ⟨[], rfl⟩
  | some value =>
    obtain ⟨verdict, hverdict⟩ :=
      Validator.exists_check parameter.key value (config.knows_rules parameter)
    exact ⟨_, Except.map_eq_ok_iff.2 ⟨_, hverdict, rfl⟩⟩

theorem KnownRules.exists_tokenViolations (h : config.KnownRules) {filter : FilterType σ}
    (hmem : filter ∈ config.filters) (field text : String) :
    ∃ found, config.tokenViolations filter field text = .ok found := by
  unfold tokenViolations
  split
  · exact ⟨_, rfl⟩
  · obtain ⟨found, hfound⟩ := exists_mapM_ok fun param _ =>
      Validator.exists_check field param (h.knows_paramRules hmem)
    exact ⟨_, Except.map_eq_ok_iff.2 ⟨_, hfound, rfl⟩⟩

theorem KnownRules.exists_filterViolations (h : config.KnownRules) (key : String)
    (entry : String × List String) : ∃ found, config.filterViolations key entry = .ok found := by
  obtain ⟨name, tokens⟩ := entry
  simp only [filterViolations]
  cases hfilter : config.filterType? name with
  | none => exact ⟨_, rfl⟩
  | some filter =>
    obtain ⟨found, hfound⟩ := exists_mapM_ok fun (numbered : String × Nat)
        (_ : numbered ∈ tokens.zipIdx) =>
      h.exists_tokenViolations (List.mem_of_find?_eq_some hfilter)
        (tokenField s!"{key}.{name}" tokens.length numbered.2) numbered.1
    exact ⟨_, Except.map_eq_ok_iff.2 ⟨_, hfound, rfl⟩⟩

theorem KnownRules.exists_filterKeyViolations (h : config.KnownRules) (request : Request)
    (key : String) : ∃ found, config.filterKeyViolations request key = .ok found := by
  unfold filterKeyViolations
  cases request.map key with
  | absent => exact ⟨_, rfl⟩
  | malformed => exact ⟨_, rfl⟩
  | table entries =>
    obtain ⟨found, hfound⟩ := exists_mapM_ok fun entry (_ : entry ∈ entries) =>
      h.exists_filterViolations key entry
    exact ⟨_, Except.map_eq_ok_iff.2 ⟨_, hfound, rfl⟩⟩

/-- With rules that are all known, checking a request always ends with the violations that
    were found. -/
theorem KnownRules.exists_violations (h : config.KnownRules) (request : Request) :
    ∃ found, config.violations request = .ok found := by
  obtain ⟨values, hvalues⟩ := exists_mapM_ok fun parameter (_ : parameter ∈ Parameter.all) =>
    exists_valueViolations config request parameter
  obtain ⟨filters, hfilters⟩ := h.exists_filterKeyViolations request "filters"
  obtain ⟨older, holder⟩ := h.exists_filterKeyViolations request "filter"
  simp only [violations, Except.bind_eq_ok_iff]
  exact ⟨_, values, hvalues, filters, hfilters, older, holder, rfl⟩

end Config

end Listing
