/-
  Listing/Proofs/Separation.lean
  ==============================
  **Parameters are checked one by one.**

  Validation is a list of checks, each under the name of one parameter
  (`violations_eq`).  A check looks only at the pairs of its name, finds nothing where
  there are none, and what it finds is about its name (`Check.Confined`).  The
  violations of a request are therefore those of the requests in which one parameter
  is left, in a fixed order, and nothing that is wrong with one parameter is lost or
  changed by another (`validation_separates`).
-/
import Listing.Proofs.Navigation

namespace Listing

variable {σ ι : Type}

/-! ### One parameter of a request -/

/-- The names that validation looks at. -/
def Request.checkedNames : List String :=
  Parameter.all.map Parameter.key ++ ["filters", "filter", "sort"]

/-- The request with only the pairs of a base name left. -/
def Request.only (request : Request) (name : String) : Request :=
  ⟨request.path, request.pairsOf name⟩

namespace Request

variable {request : Request} {name other : String}

theorem key_mem_checkedNames (parameter : Parameter) : parameter.key ∈ checkedNames :=
  List.mem_append_left _ (List.mem_map_of_mem parameter.mem_all)

theorem dot_notMem_of_mem_checkedNames (h : name ∈ checkedNames) : '.' ∉ name.toList := by
  have hall : ∀ name ∈ checkedNames, '.' ∉ name.toList := by decide
  exact hall name h

theorem pairsOf_only_self (request : Request) (name : String) :
    (request.only name).pairsOf name = request.pairsOf name := by
  simp only [only, pairsOf, List.filter_filter, Bool.and_self]

theorem pairsOf_only_of_ne (h : other ≠ name) : (request.only name).pairsOf other = [] := by
  simp only [only, pairsOf, List.filter_filter, List.filter_eq_nil_iff, Bool.and_eq_true,
    beq_iff_eq]
  rintro pair - ⟨hother, hname⟩
  exact h (hother.symm.trans hname)

end Request

namespace Violation

/-- The field is the name, or it is the name with a dot and more after it. -/
def isAbout (name : String) (violation : Violation) : Bool :=
  violation.field == name || (name ++ ".").toList.isPrefixOf violation.field.toList

theorem isAbout_iff {name : String} {violation : Violation} :
    violation.isAbout name = true ↔
      violation.field = name ∨ ∃ rest, violation.field = name ++ "." ++ rest := by
  have hrest : (∃ rest : String, violation.field = name ++ "." ++ rest) ↔
      (name ++ ".").toList <+: violation.field.toList := by
    constructor
    · rintro ⟨rest, h⟩
      exact ⟨rest.toList, by rw [h, ← String.toList_append]⟩
    · rintro ⟨rest, h⟩
      refine ⟨String.ofList rest, String.toList_inj.1 ?_⟩
      rw [String.toList_append, String.toList_ofList, h]
  rw [isAbout, Bool.or_eq_true, beq_iff_eq, List.isPrefixOf_iff_prefix, hrest]

/-- Names without dots cannot share a field. -/
theorem eq_of_isAbout {name other : String} {violation : Violation} (hname : '.' ∉ name.toList)
    (hother : '.' ∉ other.toList) (h : violation.isAbout name = true)
    (hmore : violation.isAbout other = true) : name = other := by
  have hbase : ∀ {base : String}, '.' ∉ base.toList → violation.isAbout base = true →
      violation.field.toList.takeWhile (· ≠ '.') = base.toList := by
    intro base hbase habout
    have hkeep : ∀ c ∈ base.toList, decide (c ≠ '.') = true := by
      intro c hc
      exact decide_eq_true fun hdot => hbase (hdot ▸ hc)
    rcases isAbout_iff.1 habout with hfield | ⟨rest, hfield⟩
    · rw [hfield, List.takeWhile_eq_self_iff.2 hkeep]
    · have hdot : ".".toList = ['.'] := rfl
      rw [hfield, String.toList_append, String.toList_append, hdot, List.append_assoc,
        List.takeWhile_append_of_pos hkeep, List.singleton_append,
        List.takeWhile_cons_of_neg (by decide), List.append_nil]
  exact String.toList_inj.1 ((hbase hname h).symm.trans (hbase hother hmore))

end Violation

/-! ### The checks of a validation -/

namespace Config

/-- One step of a validation, under the name that it looks at. -/
structure Check where
  name : String
  run : Request → Except UnknownRule (List Violation)

/-- The check looks only at the pairs of its name, and finds nothing where there are none; all
    that it finds is about its name. -/
structure Check.Confined (check : Check) : Prop where
  congr : ∀ {request other : Request}, request.pairsOf check.name = other.pairsOf check.name →
    check.run request = check.run other
  empty : check.run ⟨"", []⟩ = .ok []
  about : ∀ {request : Request} {found : List Violation}, check.run request = .ok found →
    ∀ violation ∈ found, violation.isAbout check.name = true

def shapeCheck (parameter : Parameter) : Check :=
  ⟨parameter.key, fun request => .ok (Parameter.shapeViolations request parameter)⟩

variable (config : Config σ ι)

def valueCheck (parameter : Parameter) : Check :=
  ⟨parameter.key, fun request =>
    Parameter.valueViolations config.validator config.pageSizes request parameter⟩

def filterCheck (key : String) : Check :=
  ⟨key, fun request => config.filterKeyViolations request key⟩

def sortCheck : Check := ⟨"sort", fun request => .ok (config.sortKeyViolations request)⟩

/-- All checks, in their order. -/
def checks : List Check :=
  Parameter.all.map shapeCheck ++ Parameter.all.map config.valueCheck
    ++ [config.filterCheck "filters", config.filterCheck "filter", config.sortCheck]

variable {config}

theorem mem_checks_iff {check : Check} :
    check ∈ config.checks ↔ (∃ parameter, check = shapeCheck parameter) ∨
      (∃ parameter, check = config.valueCheck parameter) ∨
      check = config.filterCheck "filters" ∨ check = config.filterCheck "filter" ∨
      check = config.sortCheck := by
  simp only [checks, List.mem_append, List.mem_map, Parameter.mem_all, true_and, List.mem_cons,
    List.not_mem_nil, or_false, or_assoc, eq_comm]

theorem valueCheck_mem (config : Config σ ι) (parameter : Parameter) :
    config.valueCheck parameter ∈ config.checks :=
  mem_checks_iff.2 (.inr (.inl ⟨parameter, rfl⟩))

theorem filterCheck_mem (config : Config σ ι) {key : String} (h : key ∈ ["filters", "filter"]) :
    config.filterCheck key ∈ config.checks := by
  simp only [List.mem_cons, List.not_mem_nil, or_false] at h
  rcases h with rfl | rfl
  · exact mem_checks_iff.2 (.inr (.inr (.inl rfl)))
  · exact mem_checks_iff.2 (.inr (.inr (.inr (.inl rfl))))

/-! ### Checks keep to their names -/

variable {parameter : Parameter} {key name : String}

theorem baseName_key (parameter : Parameter) :
    Request.baseName parameter.key = parameter.key := by
  cases parameter <;> decide

theorem isAbout_self (name : String) (complaint : Complaint) :
    (Violation.mk name complaint).isAbout name = true :=
  Violation.isAbout_iff.2 (.inl rfl)

theorem isAbout_entry (key name : String) (complaint : Complaint) :
    (Violation.mk s!"{key}.{name}" complaint).isAbout key = true :=
  Violation.isAbout_iff.2 (.inr ⟨name, rfl⟩)

theorem isAbout_tokenField (key name : String) (count index : Nat) (complaint : Complaint) :
    (Violation.mk (tokenField s!"{key}.{name}" count index) complaint).isAbout key = true := by
  unfold tokenField
  split
  · exact isAbout_entry key name complaint
  · refine Violation.isAbout_iff.2 (.inr ⟨name ++ "." ++ toString index, ?_⟩)
    simp only [toString, String.append_assoc]

theorem confined_shapeCheck (parameter : Parameter) : (shapeCheck parameter).Confined where
  congr := by
    intro request other h
    have hget : request.get? parameter.key = other.get? parameter.key :=
      Request.get?_congr (baseName_key parameter) h
    have hhas : request.has parameter.key = other.has parameter.key := Request.has_congr h
    simp only [shapeCheck, Parameter.shapeViolations, hget, hhas]
  empty := rfl
  about := by
    intro request found h violation hmem
    cases h
    unfold Parameter.shapeViolations at hmem
    split at hmem
    · cases List.mem_singleton.1 hmem
      exact isAbout_self _ _
    · cases hmem

/-- What is wrong with a value is what the check of some value against the rules says. -/
theorem exists_check_of_mem_value {request : Request} {found : List Violation}
    {violation : Violation} (h : (config.valueCheck parameter).run request = .ok found)
    (hmem : violation ∈ found) : ∃ value,
      config.validator.check parameter.key value (parameter.rules config.pageSizes)
        = .ok (some violation) := by
  simp only [valueCheck, Parameter.valueViolations] at h
  split at h
  · cases h
    cases hmem
  · rename_i value hvalue
    obtain ⟨verdict, hverdict, rfl⟩ := Except.map_eq_ok_iff.1 h
    exact ⟨value, Option.mem_toList.1 hmem ▸ hverdict⟩

theorem confined_valueCheck (config : Config σ ι) (parameter : Parameter) :
    (config.valueCheck parameter).Confined where
  congr := by
    intro request other h
    have hget : request.get? parameter.key = other.get? parameter.key :=
      Request.get?_congr (baseName_key parameter) h
    simp only [valueCheck, Parameter.valueViolations, hget]
  empty := rfl
  about := by
    intro request found h violation hmem
    obtain ⟨value, hcheck⟩ := exists_check_of_mem_value h hmem
    exact Violation.isAbout_iff.2 (.inl (Validator.field_of_check hcheck))

/-- What is found in the tokens of a filter is about the filter's key. -/
theorem isAbout_of_filterViolations {entry : String × List String} {found : List Violation}
    (h : config.filterViolations key entry = .ok found) :
    ∀ violation ∈ found, violation.isAbout key = true := by
  intro violation hmem
  obtain ⟨name, tokens⟩ := entry
  simp only [filterViolations] at h
  split at h
  · cases h
    cases List.mem_singleton.1 hmem
    exact isAbout_entry key name _
  · obtain ⟨founds, hfounds, rfl⟩ := Except.map_eq_ok_iff.1 h
    obtain ⟨tokenFound, htokenFound, hviolation⟩ := List.mem_flatten.1 hmem
    obtain ⟨numbered, -, htoken⟩ :=
      exists_of_forall₂ (mapM_eq_ok_iff.1 hfounds).flip tokenFound htokenFound
    simp only [tokenViolations] at htoken
    split at htoken
    · cases htoken
      cases List.mem_singleton.1 hviolation
      exact isAbout_tokenField key name _ _ _
    · obtain ⟨verdicts, hverdicts, rfl⟩ := Except.map_eq_ok_iff.1 htoken
      obtain ⟨param, -, hparam⟩ := exists_of_forall₂ (mapM_eq_ok_iff.1 hverdicts).flip
        (some violation) (List.reduceOption_mem_iff.1 hviolation)
      have hfield := Validator.field_of_check hparam
      obtain ⟨field, complaint⟩ := violation
      cases hfield
      exact isAbout_tokenField key name _ _ _

theorem confined_filterCheck (config : Config σ ι) (key : String) :
    (config.filterCheck key).Confined where
  congr := by
    intro request other h
    have hmap : request.map key = other.map key := Request.map_congr h
    simp only [filterCheck, filterKeyViolations, hmap]
  empty := rfl
  about := by
    intro request found h violation hmem
    simp only [filterCheck, filterKeyViolations] at h
    split at h
    · cases h
      cases hmem
    · cases h
      cases List.mem_singleton.1 hmem
      exact isAbout_self _ _
    · obtain ⟨founds, hfounds, rfl⟩ := Except.map_eq_ok_iff.1 h
      obtain ⟨entryFound, hentryFound, hviolation⟩ := List.mem_flatten.1 hmem
      obtain ⟨entry, -, hentry⟩ :=
        exists_of_forall₂ (mapM_eq_ok_iff.1 hfounds).flip entryFound hentryFound
      exact isAbout_of_filterViolations hentry violation hviolation

theorem confined_sortCheck (config : Config σ ι) : config.sortCheck.Confined where
  congr := by
    intro request other h
    have hmap : request.map "sort" = other.map "sort" := Request.map_congr h
    simp only [sortCheck, sortKeyViolations, hmap]
  empty := rfl
  about := by
    intro request found h violation hmem
    cases h
    simp only [sortKeyViolations] at hmem
    split at hmem
    · cases hmem
    · cases List.mem_singleton.1 hmem
      exact isAbout_self _ _
    · obtain ⟨⟨name, words⟩, -, hviolation⟩ := List.mem_flatMap.1 hmem
      simp only [sortViolations] at hviolation
      split at hviolation
      · cases List.mem_singleton.1 hviolation
        exact isAbout_entry "sort" name _
      · split at hviolation
        · cases List.mem_singleton.1 hviolation
          exact isAbout_entry "sort" name _
        · cases hviolation

theorem confined_of_mem_checks {check : Check} (h : check ∈ config.checks) : check.Confined := by
  rcases mem_checks_iff.1 h with ⟨parameter, rfl⟩ | ⟨parameter, rfl⟩ | rfl | rfl | rfl
  · exact confined_shapeCheck parameter
  · exact confined_valueCheck config parameter
  · exact confined_filterCheck config "filters"
  · exact confined_filterCheck config "filter"
  · exact confined_sortCheck config

/-! ### What the checks find -/

/-- What a check finds when it ends. -/
def Check.found (check : Check) (request : Request) : List Violation :=
  (check.run request).toOption.getD []

section Checks

variable {check : Check} {checks : List Check} {request : Request}

theorem Check.run_of_mem_found {violation : Violation} (h : violation ∈ check.found request) :
    check.run request = .ok (check.found request) := by
  unfold found at h ⊢
  cases hrun : check.run request with
  | error unknown =>
    rw [hrun] at h
    cases h
  | ok found => rfl

theorem Check.Confined.found_congr (h : check.Confined) {other : Request}
    (hpairs : request.pairsOf check.name = other.pairsOf check.name) :
    check.found request = check.found other := by
  rw [Check.found, Check.found, h.congr hpairs]

theorem Check.Confined.found_only (h : check.Confined) (name : String) :
    check.found (request.only name) = if check.name = name then check.found request else [] := by
  split
  · rename_i hname
    subst hname
    exact h.found_congr (request.pairsOf_only_self check.name)
  · rename_i hname
    have hnone : (request.only name).pairsOf check.name = Request.pairsOf ⟨"", []⟩ check.name :=
      Request.pairsOf_only_of_ne hname
    rw [h.found_congr hnone, Check.found, h.empty]
    rfl

/-- The checks of one name, out of all. -/
theorem flatMap_named (checks : List Check) (name : String) (find : Check → List Violation) :
    checks.flatMap (fun check => if check.name = name then find check else [])
      = (checks.filter (·.name == name)).flatMap find := by
  induction checks with
  | nil => rfl
  | cons check rest ih =>
    rw [List.flatMap_cons, ih]
    by_cases hname : check.name = name
    · rw [if_pos hname, List.filter_cons, if_pos (beq_iff_eq.2 hname), List.flatMap_cons]
    · rw [if_neg hname, List.filter_cons, if_neg fun h => hname (beq_iff_eq.1 h), List.nil_append]

/-- Where one parameter is left, only the checks of its name find anything. -/
theorem flatMap_found_only (h : ∀ check ∈ checks, check.Confined) (name : String) :
    checks.flatMap (·.found (request.only name))
      = (checks.filter (·.name == name)).flatMap (·.found request) := by
  rw [← flatMap_named]
  exact List.flatMap_congr fun check hmem => (h check hmem).found_only name

/-- What is about a name was found by the checks of that name. -/
theorem filter_flatMap_found (h : ∀ check ∈ checks, check.Confined)
    (hnames : ∀ check ∈ checks, check.name ∈ Request.checkedNames) {name : String}
    (hname : name ∈ Request.checkedNames) :
    (checks.flatMap (·.found request)).filter (Violation.isAbout name)
      = (checks.filter (·.name == name)).flatMap (·.found request) := by
  rw [← flatMap_named, List.filter_flatMap]
  refine List.flatMap_congr fun check hmem => ?_
  have habout : ∀ violation ∈ check.found request, violation.isAbout check.name = true := by
    intro violation hviolation
    exact (h check hmem).about (Check.run_of_mem_found hviolation) violation hviolation
  split
  · rename_i hsame
    subst hsame
    exact List.filter_eq_self.2 habout
  · rename_i hother
    refine List.filter_eq_nil_iff.2 fun violation hviolation hshared => hother ?_
    exact Violation.eq_of_isAbout (Request.dot_notMem_of_mem_checkedNames (hnames check hmem))
      (Request.dot_notMem_of_mem_checkedNames hname) (habout violation hviolation) hshared

end Checks

/-! ### A whole validation -/

theorem name_mem_of_mem_checks {check : Check} (h : check ∈ config.checks) :
    check.name ∈ Request.checkedNames := by
  rcases mem_checks_iff.1 h with ⟨parameter, rfl⟩ | ⟨parameter, rfl⟩ | rfl | rfl | rfl
  · exact Request.key_mem_checkedNames parameter
  · exact Request.key_mem_checkedNames parameter
  all_goals
    refine List.mem_append_right _ ?_
    simp [filterCheck, sortCheck]

theorem KnownRules.run_eq (hknown : config.KnownRules) {check : Check} (h : check ∈ config.checks)
    (request : Request) : check.run request = .ok (check.found request) := by
  have hends : ∃ found, check.run request = .ok found := by
    rcases mem_checks_iff.1 h with ⟨parameter, rfl⟩ | ⟨parameter, rfl⟩ | rfl | rfl | rfl
    · exact ⟨_, rfl⟩
    · exact exists_valueViolations config request parameter
    · exact hknown.exists_filterKeyViolations request "filters"
    · exact hknown.exists_filterKeyViolations request "filter"
    · exact ⟨_, rfl⟩
  obtain ⟨found, hfound⟩ := hends
  rw [Check.found, hfound]
  rfl

/-- A validation that ends has found what the checks find, in their order. -/
theorem violations_eq_flatMap {request : Request} {found : List Violation}
    (h : config.violations request = .ok found) :
    found = config.checks.flatMap (·.found request) := by
  have hfound : ∀ {check : Check} {part : List Violation}, check.run request = .ok part →
      check.found request = part := by
    intro check part hrun
    rw [Check.found, hrun]
    rfl
  obtain ⟨values, hvalues, h⟩ := Except.bind_eq_ok_iff.1 h
  obtain ⟨filters, hfilters, h⟩ := Except.bind_eq_ok_iff.1 h
  obtain ⟨older, holder, h⟩ := Except.bind_eq_ok_iff.1 h
  have hparts : Parameter.all.map (fun parameter => (config.valueCheck parameter).found request)
      = values := by
    rw [← List.forall₂_eq_eq_eq, List.forall₂_map_left_iff]
    refine (mapM_eq_ok_iff.1 hvalues).imp ?_
    intro parameter part hpart
    have hrun : (config.valueCheck parameter).run request = .ok part := hpart
    exact hfound hrun
  have hfiltersFound : (config.filterCheck "filters").found request = filters := hfound hfilters
  have holderFound : (config.filterCheck "filter").found request = older := hfound holder
  rw [← Except.ok.inj h, ← hparts, ← hfiltersFound, ← holderFound]
  simp only [checks, List.flatMap_append, List.flatMap_map, List.flatMap_cons, List.flatMap_nil,
    List.append_nil, List.append_assoc, ← List.flatMap_def]
  rfl

/-- With rules that are all known, the violations of a request are what the checks find. -/
theorem KnownRules.violations_eq (hknown : config.KnownRules) (request : Request) :
    config.violations request = .ok (config.checks.flatMap (·.found request)) := by
  obtain ⟨found, hfound⟩ := hknown.exists_violations request
  rw [hfound, violations_eq_flatMap hfound]

/-! ### Shapes and values -/

theorem complaint_ne_notSingle {rule : Rule} {name field value : String} {arguments : List String}
    (hname : name ∈ ["integer", "min", "max", "in"])
    (hrule : config.validator.rule? name = some rule) :
    rule field value arguments ≠ some .notSingle := by
  have hrange : ∀ least greatest, rangeComplaint value least greatest ≠ some .notSingle := by
    intro least greatest h
    simp only [rangeComplaint] at h
    split at h
    · cases h
    · split at h <;> cases h
  intro h
  simp only [List.mem_cons, List.not_mem_nil, or_false] at hname
  rcases hname with rfl | rfl | rfl | rfl
  all_goals
    rw [rule?_standard config (by decide) (by decide)] at hrule
    cases hrule
  · simp only [Rule.integer, Rule.ofTest] at h
    split at h <;> cases h
  · simp only [Rule.atLeast] at h
    split at h
    · exact hrange _ _ h
    · cases h
  · simp only [Rule.atMost] at h
    split at h
    · exact hrange _ _ h
    · cases h
  · simp only [Rule.oneOf] at h
    split at h <;> cases h

theorem run_ne_notSingle {field value : String} {calls : List RuleCall}
    (h : ∀ call ∈ calls, call.name ∈ ["integer", "min", "max", "in"]) :
    config.validator.run field value calls ≠ .ok (some .notSingle) := by
  induction calls with
  | nil =>
    intro hrun
    cases hrun
  | cons call rest ih =>
    obtain ⟨hname, hrest⟩ := List.forall_mem_cons.1 h
    intro hrun
    simp only [Validator.run] at hrun
    cases hrule : config.validator.rule? call.name with
    | none =>
      rw [hrule] at hrun
      cases hrun
    | some rule =>
      simp only [hrule] at hrun
      split at hrun
      · rename_i complaint hcomplaint
        cases hrun
        exact complaint_ne_notSingle hname hrule hcomplaint
      · exact ih hrest hrun

end Config

/-- The complaint is that a single value is given in brackets only. -/
def Violation.ofBrackets (violation : Violation) : Bool := violation.complaint == .notSingle

namespace Config

variable {config : Config σ ι} {request : Request} {parameter : Parameter}

theorem ofBrackets_of_mem_shape {violation : Violation}
    (h : violation ∈ (shapeCheck parameter).found request) : violation.ofBrackets = true := by
  change violation ∈ Parameter.shapeViolations request parameter at h
  unfold Parameter.shapeViolations at h
  split at h
  · cases List.mem_singleton.1 h
    rfl
  · cases h

theorem not_ofBrackets_of_mem_value {violation : Violation}
    (h : violation ∈ (config.valueCheck parameter).found request) :
    violation.ofBrackets = false := by
  obtain ⟨value, hcheck⟩ := exists_check_of_mem_value (Check.run_of_mem_found h) h
  obtain ⟨verdict, hverdict, hviolation⟩ := Except.map_eq_ok_iff.1 hcheck
  obtain ⟨complaint, rfl, rfl⟩ := Option.map_eq_some_iff.1 hviolation
  refine beq_eq_false_iff_ne.2 fun hsingle => ?_
  cases hsingle
  exact run_ne_notSingle (fun call hmem => name_mem_of_mem_rules hmem) hverdict

/-! ### Every parameter on its own -/

/-- What is found under each name when that parameter is left alone is what is found about it
    in the whole request: all shapes first, then all values, then filters and sort keys. -/
structure Separated (config : Config σ ι) (request : Request) (found : List Violation)
    (part : String → List Violation) : Prop where
  whole : config.violations request = .ok found
  alone : ∀ name ∈ Request.checkedNames, config.violations (request.only name) = .ok (part name)
  attributed : ∀ name ∈ Request.checkedNames, found.filter (Violation.isAbout name) = part name
  shapes : ∀ parameter : Parameter,
    (part parameter.key).filter Violation.ofBrackets = Parameter.shapeViolations request parameter
  values : ∀ parameter : Parameter,
    Parameter.valueViolations config.validator config.pageSizes request parameter
      = .ok ((part parameter.key).filter (!·.ofBrackets))
  filters : ∀ key ∈ ["filters", "filter"], config.filterKeyViolations request key = .ok (part key)
  sorts : config.sortKeyViolations request = part "sort"
  ordered : found
    = Parameter.all.flatMap (fun parameter => (part parameter.key).filter Violation.ofBrackets)
      ++ Parameter.all.flatMap (fun parameter => (part parameter.key).filter (!·.ofBrackets))
      ++ part "filters" ++ part "filter" ++ part "sort"

/-- The checks of a single-valued parameter. -/
theorem filter_checks_key (config : Config σ ι) (parameter : Parameter) :
    config.checks.filter (·.name == parameter.key)
      = [shapeCheck parameter, config.valueCheck parameter] := by
  cases parameter <;> rfl

theorem filter_checks_filter (config : Config σ ι) {key : String}
    (h : key ∈ ["filters", "filter"]) :
    config.checks.filter (·.name == key) = [config.filterCheck key] := by
  simp only [List.mem_cons, List.not_mem_nil, or_false] at h
  rcases h with rfl | rfl <;> rfl

theorem KnownRules.separated (hknown : config.KnownRules) (request : Request) :
    config.Separated request (config.checks.flatMap (·.found request))
      fun name => (config.checks.filter (·.name == name)).flatMap (·.found request) := by
  have hconfined : ∀ check ∈ config.checks, check.Confined := fun _ => confined_of_mem_checks
  have hfilter : ∀ key ∈ ["filters", "filter"],
      config.checks.filter (·.name == key) = [config.filterCheck key] :=
    fun _ => config.filter_checks_filter
  have hsort : config.checks.filter (·.name == "sort") = [config.sortCheck] := rfl
  have hshape : ∀ parameter : Parameter,
      (List.flatMap (·.found request) (config.checks.filter (·.name == parameter.key))).filter
        Violation.ofBrackets = (shapeCheck parameter).found request := by
    intro parameter
    rw [filter_checks_key, List.flatMap_cons, List.flatMap_singleton, List.filter_append,
      List.filter_eq_self.2 fun _ => ofBrackets_of_mem_shape,
      List.filter_eq_nil_iff.2 fun _ h => Bool.not_eq_true _ ▸ not_ofBrackets_of_mem_value h,
      List.append_nil]
  have hvalue : ∀ parameter : Parameter,
      (List.flatMap (·.found request) (config.checks.filter (·.name == parameter.key))).filter
        (!·.ofBrackets) = (config.valueCheck parameter).found request := by
    intro parameter
    rw [filter_checks_key, List.flatMap_cons, List.flatMap_singleton, List.filter_append,
      List.filter_eq_nil_iff.2 fun _ h => by simp [ofBrackets_of_mem_shape h],
      List.filter_eq_self.2 fun _ h => by simp [not_ofBrackets_of_mem_value h], List.nil_append]
  constructor
  · exact hknown.violations_eq request
  · intro name _
    rw [hknown.violations_eq, flatMap_found_only hconfined]
  · intro name hname
    exact filter_flatMap_found hconfined (fun _ => name_mem_of_mem_checks) hname
  · exact hshape
  · intro parameter
    rw [hvalue]
    exact hknown.run_eq (config.valueCheck_mem parameter) request
  · intro key hkey
    rw [hfilter key hkey, List.flatMap_singleton]
    exact hknown.run_eq (config.filterCheck_mem hkey) request
  · rw [hsort, List.flatMap_singleton]
    rfl
  · simp only [hshape, hvalue, hfilter "filters" (by decide), hfilter "filter" (by decide),
      hsort]
    simp only [checks, List.flatMap_append, List.flatMap_map, List.flatMap_cons, List.flatMap_nil,
      List.append_assoc, List.append_nil]

theorem exists_query_iff {found : List Violation} (h : config.violations request = .ok found) :
    (∃ query, Query.ofRequest config request = .ok query) ↔ found = [] := by
  simp only [Query.ofRequest_eq_ok_iff, ← violations_eq_nil_iff, h, Except.ok.injEq,
    exists_and_left, exists_eq, and_true]

/-- Nothing is found in the request exactly when nothing is found under any name. -/
theorem Separated.found_eq_nil_iff {found : List Violation} {part : String → List Violation}
    (h : config.Separated request found part) :
    found = [] ↔ ∀ name ∈ Request.checkedNames, part name = [] := by
  constructor
  · intro hnone name hname
    rw [← h.attributed name hname, hnone, List.filter_nil]
  · intro hnone
    have hkey : ∀ parameter : Parameter, part parameter.key = [] := fun parameter =>
      hnone _ (Request.key_mem_checkedNames parameter)
    rw [h.ordered, hnone "filters" (by decide), hnone "filter" (by decide),
      hnone "sort" (by decide)]
    simp only [hkey, List.filter_nil]
    rfl

/-- **Validation keeps the parameters apart.**  What is found about one parameter is what is
    found when it is left alone, and a request is accepted exactly when it is accepted for each
    of its parameters on their own. -/
theorem validation_separates {config : Config σ ι} (hknown : config.KnownRules)
    (request : Request) :
    (∃ found part, config.Separated request found part) ∧
      ((∃ query, Query.ofRequest config request = .ok query) ↔
        ∀ name ∈ Request.checkedNames,
          ∃ query, Query.ofRequest config (request.only name) = .ok query) := by
  have hseparated := hknown.separated request
  refine ⟨⟨_, _, hseparated⟩, ?_⟩
  rw [exists_query_iff hseparated.whole, hseparated.found_eq_nil_iff]
  exact forall₂_congr fun name hname => (exists_query_iff (hseparated.alone name hname)).symm

/-- A request for parcels with a mistake in six of its parameters: every mistake is found, and the
    one in the page number is found whether the others are there or not. -/
theorem faulty_parcels_request_separates :
    let config := parcels (Memory Row) Row
    let request : Request := ⟨"/parcels", [("sort[size]", "up"), ("limit[]", "1"),
      ("filters[size]", "eq:3"), ("page", "first"), ("filter[height]", "gt:2"), ("fields", "some")]⟩
    ∃ found part, config.Separated request found part ∧
      found = [⟨"limit", .notSingle⟩, ⟨"page", .notInteger⟩, ⟨"fields", .notListed⟩,
        ⟨"filters.size", .operatorNotAllowed .eq "size"⟩,
        ⟨"filter.height", .unknownFilter "height"⟩,
        ⟨"sort.size", .badDirection "size"⟩] ∧
      part "page" = [⟨"page", .notInteger⟩] ∧
      ∃ name ∈ Request.checkedNames,
        ¬∃ query, Query.ofRequest config (request.only name) = .ok query := by
  intro config request
  obtain ⟨⟨found, part, hseparated⟩, haccepted⟩ := validation_separates knownRules_parcels request
  have hfound : config.violations request = .ok [⟨"limit", .notSingle⟩, ⟨"page", .notInteger⟩,
      ⟨"fields", .notListed⟩, ⟨"filters.size", .operatorNotAllowed .eq "size"⟩,
      ⟨"filter.height", .unknownFilter "height"⟩, ⟨"sort.size", .badDirection "size"⟩] := by
    decide +kernel
  cases Except.ok.inj (hseparated.whole.symm.trans hfound)
  refine ⟨_, part, hseparated, rfl, ?_, ?_⟩
  · rw [← hseparated.attributed "page" (by decide)]
    decide
  · have hrejected : ¬∃ query, Query.ofRequest config request = .ok query := by
      rw [exists_query_iff hfound]
      exact List.cons_ne_nil _ _
    rw [haccepted] at hrejected
    simpa only [not_forall, exists_prop] using hrejected

end Config

end Listing
