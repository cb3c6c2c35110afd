/-
  Listing/Proofs/RuleStrings.lean
  ===============================
  **Rule strings compose.**

  A rule string is read to a list of calls, and a bar between two rule strings is
  the end of one list and the start of the other (`RuleCall.all_join`); blank parts
  and blanks around a part are gone by then.  So a check against joined rule strings
  is the one check after the other (`checkInto_join`).  What a check ends with is
  decided by the first call that does not pass (`run_stops_iff`): everything before
  it was looked at and passed, and nothing behind it is looked at.

  A filter's own rules stand behind the rule of its kind, which is a standard rule
  that no listing redefines.  They can turn a parameter away and never let one in.
-/
import Listing.Proofs.Serving

namespace Listing

/-! ### Calls that are reached -/

namespace Validator

variable {validator : Validator} {field value : String} {calls : List RuleCall}

/-- The rule that the call names is known and finds nothing wrong with the value. -/
def Passes (validator : Validator) (field value : String) (call : RuleCall) : Prop :=
  ∃ rule, validator.rule? call.name = some rule ∧ rule field value call.arguments = none

/-- A call in a list is reached when all calls before it pass. -/
def Reaches (validator : Validator) (field value : String) (calls : List RuleCall)
    (call : RuleCall) : Prop :=
  ∃ before after, calls = before ++ call :: after ∧
    ∀ earlier ∈ before, validator.Passes field value earlier

theorem run_cons_of_passes {call : RuleCall} (h : validator.Passes field value call)
    (rest : List RuleCall) :
    validator.run field value (call :: rest) = validator.run field value rest := by
  obtain ⟨rule, hrule, hpasses⟩ := h
  simp only [run, hrule, hpasses]

/-- A call that does not pass ends the run, whatever stands behind it. -/
theorem run_cons_of_not_passes {call : RuleCall} (h : ¬ validator.Passes field value call)
    (rest : List RuleCall) :
    validator.run field value (call :: rest) = validator.run field value [call] := by
  simp only [run]
  cases hrule : validator.rule? call.name with
  | none => rfl
  | some rule =>
    cases hverdict : rule field value call.arguments with
    | none => exact absurd ⟨rule, hrule, hverdict⟩ h
    | some complaint => simp only [hverdict]

theorem run_append_of_passes {before : List RuleCall}
    (h : ∀ call ∈ before, validator.Passes field value call) (rest : List RuleCall) :
    validator.run field value (before ++ rest) = validator.run field value rest := by
  rw [run_append, run_eq_none_iff.2 h]

theorem run_singleton_eq_none_iff {call : RuleCall} :
    validator.run field value [call] = .ok none ↔ validator.Passes field value call := by
  rw [run_eq_none_iff]
  simp only [List.mem_singleton, forall_eq, Passes]

/-- A run that does not pass ends as the run of one call that it reaches. -/
theorem run_stops_iff {outcome : Except UnknownRule (Option Complaint)}
    (hstops : outcome ≠ .ok none) :
    validator.run field value calls = outcome ↔
      ∃ call, validator.Reaches field value calls call ∧
        validator.run field value [call] = outcome := by
  constructor
  · intro h
    induction calls with
    | nil => exact absurd h.symm hstops
    | cons call rest ih =>
      by_cases hpasses : validator.Passes field value call
      · rw [run_cons_of_passes hpasses] at h
        obtain ⟨last, ⟨before, after, rfl, hbefore⟩, hlast⟩ := ih h
        exact ⟨last, ⟨call :: before, after, rfl, List.forall_mem_cons.2 ⟨hpasses, hbefore⟩⟩, hlast⟩
      · rw [run_cons_of_not_passes hpasses] at h
        exact ⟨call, ⟨[], rest, rfl, List.forall_mem_nil _⟩, h⟩
  · rintro ⟨call, ⟨before, after, rfl, hbefore⟩, hcall⟩
    have hfails : ¬ validator.Passes field value call := by
      intro hpasses
      exact hstops (hcall.symm.trans (run_singleton_eq_none_iff.2 hpasses))
    rw [run_append_of_passes hbefore, run_cons_of_not_passes hfails, hcall]

theorem run_singleton_eq_error_iff {call : RuleCall} {unknown : UnknownRule} :
    validator.run field value [call] = .error unknown ↔
      validator.rule? call.name = none ∧ call.name = unknown.name := by
  simp only [run]
  cases validator.rule? call.name with
  | none =>
    obtain ⟨name⟩ := unknown
    simp
  | some rule => cases hverdict : rule field value call.arguments <;> simp [hverdict]

/-- An unknown rule is met only where the run gets to it. -/
theorem run_eq_error_iff {unknown : UnknownRule} :
    validator.run field value calls = .error unknown ↔
      ∃ call, validator.Reaches field value calls call ∧
        validator.rule? call.name = none ∧ call.name = unknown.name := by
  rw [run_stops_iff (by intro h; cases h)]
  simp only [run_singleton_eq_error_iff]

end Validator

/-! ### Checks that add to a list -/

/-- What a check leaves behind: the violations found so far, and whether the value passed,
    unless the check stopped at an unknown rule. -/
structure CheckOutcome where
  errors : List Violation
  passed : Except UnknownRule Bool
deriving DecidableEq

namespace CheckOutcome

/-- Go on with the violations so far, provided the value passed. -/
def andThen (done : CheckOutcome) (next : List Violation → CheckOutcome) : CheckOutcome :=
  match done.passed with
  | .ok true => next done.errors
  | _ => done

/-- What is left of a list when a check ends with a violation, without one, or not at all. -/
def ofFound (errors : List Violation) : Except UnknownRule (Option Violation) → CheckOutcome
  | .ok none => ⟨errors, .ok true⟩
  | .ok (some violation) => ⟨errors ++ [violation], .ok false⟩
  | .error unknown => ⟨errors, .error unknown⟩

end CheckOutcome

namespace Validator

/-- Run rules in order, and add the first complaint to a list of violations. -/
def runInto (validator : Validator) (errors : List Violation) (field value : String) :
    List RuleCall → CheckOutcome
  | [] => ⟨errors, .ok true⟩
  | call :: rest =>
    match validator.rule? call.name with
    | none => ⟨errors, .error ⟨call.name⟩⟩
    | some rule =>
      match rule field value call.arguments with
      | some complaint => ⟨errors ++ [⟨field, complaint⟩], .ok false⟩
      | none => validator.runInto errors field value rest

/-- Check a value against a rule string, and add the violation found to a list. -/
def checkInto (validator : Validator) (errors : List Violation) (field value rules : String) :
    CheckOutcome :=
  validator.runInto errors field value (RuleCall.all rules)

variable {validator : Validator} {errors : List Violation} {field value : String}

theorem runInto_eq (calls : List RuleCall) :
    validator.runInto errors field value calls = CheckOutcome.ofFound errors
      ((validator.run field value calls).map fun found => found.map (Violation.mk field)) := by
  induction calls with
  | nil => rfl
  | cons call rest ih =>
    rw [runInto, run]
    cases validator.rule? call.name with
    | none => rfl
    | some rule =>
      cases hverdict : rule field value call.arguments with
      | none => simpa only [hverdict] using ih
      | some complaint =>
        simp only [hverdict]
        rfl

/-- Adding to a list is what the check finds, put at its end. -/
theorem checkInto_eq (rules : String) :
    validator.checkInto errors field value rules
      = CheckOutcome.ofFound errors (validator.check field value rules) :=
  runInto_eq (RuleCall.all rules)

theorem runInto_append (first second : List RuleCall) :
    validator.runInto errors field value (first ++ second)
      = (validator.runInto errors field value first).andThen fun left =>
          validator.runInto left field value second := by
  induction first with
  | nil => rfl
  | cons call rest ih =>
    rw [List.cons_append, runInto, runInto]
    cases validator.rule? call.name with
    | none => rfl
    | some rule =>
      cases hverdict : rule field value call.arguments with
      | none => simpa only [hverdict] using ih
      | some complaint =>
        simp only [hverdict]
        rfl

theorem checkInto_join (first second : String) :
    validator.checkInto errors field value (first ++ "|" ++ second)
      = (validator.checkInto errors field value first).andThen fun left =>
          validator.checkInto left field value second := by
  rw [checkInto, RuleCall.all_join, runInto_append]
  rfl

theorem check_eq_error_iff {rules : String} {unknown : UnknownRule} :
    validator.check field value rules = .error unknown ↔
      ∃ call, validator.Reaches field value (RuleCall.all rules) call ∧
        validator.rule? call.name = none ∧ call.name = unknown.name := by
  rw [← run_eq_error_iff, check]
  cases validator.run field value (RuleCall.all rules) <;> simp [Except.map]

/-- A check ends in one of three ways. -/
theorem checkInto_cases (validator : Validator) (errors : List Violation)
    (field value rules : String) :
    validator.checkInto errors field value rules = ⟨errors, .ok true⟩ ∨
      (∃ violation, violation.field = field ∧
        validator.checkInto errors field value rules = ⟨errors ++ [violation], .ok false⟩) ∨
      ∃ unknown, validator.checkInto errors field value rules = ⟨errors, .error unknown⟩ := by
  rw [checkInto_eq]
  cases hfound : validator.check field value rules with
  | error unknown => exact .inr (.inr ⟨unknown, rfl⟩)
  | ok found =>
    cases found with
    | none => exact .inl rfl
    | some violation => exact .inr (.inl ⟨violation, field_of_check hfound, rfl⟩)

theorem passed_checkInto_eq_error_iff {rules : String} {unknown : UnknownRule} :
    (validator.checkInto errors field value rules).passed = .error unknown ↔
      ∃ call, validator.Reaches field value (RuleCall.all rules) call ∧
        validator.rule? call.name = none ∧ call.name = unknown.name := by
  rw [← check_eq_error_iff, checkInto_eq]
  cases validator.check field value rules with
  | error other => simp [CheckOutcome.ofFound]
  | ok found => cases found <;> simp [CheckOutcome.ofFound]

/-- What is known of a rule name decides a check. -/
theorem check_congr {other : Validator} {rules : String}
    (h : ∀ call ∈ RuleCall.all rules, validator.rule? call.name = other.rule? call.name) :
    validator.check field value rules = other.check field value rules := by
  unfold check
  congr 1
  generalize RuleCall.all rules = calls at h
  induction calls with
  | nil => rfl
  | cons call rest ih =>
    obtain ⟨hcall, hrest⟩ := List.forall_mem_cons.1 h
    rw [run, run, hcall, ih hrest]

end Validator

/-! ### Rules of a filter -/

namespace Config

variable {σ ι : Type} {config : Config σ ι} {filter : FilterType σ} {field param : String}

/-- The rule of a kind means the same in every listing. -/
theorem check_kind_rule (config : Config σ ι) {kind : ValueKind} {rule : String}
    (h : kind.rule? = some rule) (field param : String) :
    config.validator.check field param rule = Validator.standard.check field param rule := by
  refine Validator.check_congr ?_
  intro call hmem
  cases kind with
  | text => cases h
  | integer | float | boolean =>
    cases h
    cases List.mem_singleton.1 hmem
    exact config.rule?_standard (by decide) (by decide)

/-- A parameter passes the rules of a filter exactly when it passes the rule of its kind and the
    rules of the filter's own. -/
theorem check_paramRules_eq_none_iff :
    config.validator.check field param filter.paramRules = .ok none ↔
      (∀ rule ∈ filter.kind.rule?, Validator.standard.check field param rule = .ok none) ∧
        ∀ rules ∈ filter.rules, config.validator.check field param rules = .ok none := by
  have hkind : (∀ rule ∈ filter.kind.rule?, Validator.standard.check field param rule = .ok none) ↔
      ∀ rule ∈ filter.kind.rule?, config.validator.check field param rule = .ok none := by
    refine forall₂_congr fun rule hrule => ?_
    rw [config.check_kind_rule hrule]
  rw [hkind]
  simp only [Validator.check_eq_none_iff, FilterType.all_paramRules, List.mem_flatMap,
    List.mem_append, Option.mem_toList]
  constructor
  · intro h
    exact ⟨fun rule hrule call hcall => h call ⟨rule, .inl hrule, hcall⟩,
      fun rules hrules call hcall => h call ⟨rules, .inr hrules, hcall⟩⟩
  · rintro ⟨hrule, hrules⟩ call ⟨rules, hmem | hmem, hcall⟩
    · exact hrule rules hmem call hcall
    · exact hrules rules hmem call hcall

/-- What the rule of its kind has against a parameter is what is said of it. -/
theorem check_paramRules_of_kind {rule : String} {violation : Violation}
    (hrule : filter.kind.rule? = some rule)
    (h : Validator.standard.check field param rule = .ok (some violation)) :
    config.validator.check field param filter.paramRules = .ok (some violation) := by
  rw [← config.check_kind_rule hrule] at h
  obtain ⟨found, hrun, hfound⟩ := Except.map_eq_ok_iff.1 h
  obtain ⟨complaint, rfl, -⟩ := Option.map_eq_some_iff.1 hfound
  rw [Validator.check, FilterType.all_paramRules, hrule, Option.toList_some, List.singleton_append,
    List.flatMap_cons, Validator.run_append, hrun]
  exact congrArg Except.ok hfound

/-- A token that a filter accepts is accepted without the filter's own rules. -/
theorem tokenViolations_without_rules {text : String}
    (h : config.tokenViolations filter field text = .ok []) :
    config.tokenViolations { filter with rules := none } field text = .ok [] := by
  unfold tokenViolations at h ⊢
  have hsame : tokenComplaint? { filter with rules := none } field text
      = tokenComplaint? filter field text := rfl
  rw [hsame]
  cases hcomplaint : tokenComplaint? filter field text with
  | some complaint => simp [hcomplaint] at h
  | none =>
    simp only [hcomplaint, reduceOption_mapM_eq_nil_iff] at h ⊢
    intro param hparam
    have hkind := (check_paramRules_eq_none_iff.1 (h param hparam)).1
    refine check_paramRules_eq_none_iff.2 ⟨hkind, ?_⟩
    intro rules hrules
    cases hrules

end Config

/-! ### Any rule strings -/

namespace Validator

/-- **Rule strings compose.**  For any validator, list of violations, field and value:
    checking against two rule strings with a bar between them is checking against the first
    and, only when the value passed, against the second.  Every check ends in one of three
    ways, what it adds to the list is what the check finds, and it stops at an unknown rule
    only when all calls before that rule pass.  Hence a parameter of a filter passes when it
    passes the rule of its kind and the filter's own rules, the kind is heard first, and a
    token that is accepted is accepted without the filter's own rules too. -/
theorem rule_strings_compose :
    (∀ (validator : Validator) (errors : List Violation) (field value first second : String),
      validator.checkInto errors field value (first ++ "|" ++ second)
        = (validator.checkInto errors field value first).andThen fun left =>
            validator.checkInto left field value second) ∧
    (∀ (validator : Validator) (errors : List Violation) (field value rules : String),
      let done := validator.checkInto errors field value rules
      done = .ofFound errors (validator.check field value rules) ∧
      (done = ⟨errors, .ok true⟩ ∨
        (∃ violation, violation.field = field ∧ done = ⟨errors ++ [violation], .ok false⟩) ∨
        ∃ unknown, done = ⟨errors, .error unknown⟩) ∧
      ∀ unknown, done.passed = .error unknown ↔
        ∃ call, validator.Reaches field value (RuleCall.all rules) call ∧
          validator.rule? call.name = none ∧ call.name = unknown.name) ∧
    ∀ {σ ι : Type} (config : Config σ ι) (filter : FilterType σ) (field param text : String),
      (config.validator.check field param filter.paramRules = .ok none ↔
        (∀ rule ∈ filter.kind.rule?, standard.check field param rule = .ok none) ∧
          ∀ rules ∈ filter.rules, config.validator.check field param rules = .ok none) ∧
      (∀ rule ∈ filter.kind.rule?, ∀ violation,
        standard.check field param rule = .ok (some violation) →
          config.validator.check field param filter.paramRules = .ok (some violation)) ∧
      (config.tokenViolations filter field text = .ok [] →
        config.tokenViolations { filter with rules := none } field text = .ok []) := by
  refine ⟨?_, ?_, ?_⟩
  · intro validator errors field value first second
    exact checkInto_join first second
  · intro validator errors field value rules
    exact ⟨checkInto_eq rules, checkInto_cases validator errors field value rules,
      fun _ => passed_checkInto_eq_error_iff⟩
  · intro σ ι config filter field param text
    exact ⟨Config.check_paramRules_eq_none_iff,
      fun _ hrule _ => Config.check_paramRules_of_kind hrule, Config.tokenViolations_without_rules⟩

/-- The sizes of parcels are integers from 1 to 9: what is no integer is told so, although it is
    long enough, and a token of sizes is accepted without these bounds too. -/
theorem sizes_of_parcels_are_integers :
    let size : FilterType Unit :=
      ⟨"size", none, some [.between, .isIn], some "min:1|max:9", .integer, none⟩
    let config : Config Unit Row := parcels Unit Row
    standard.check "filters.size" "abc" "integer"
        = .ok (some ⟨"filters.size", .notInteger⟩) ∧
      config.validator.check "filters.size" "abc" size.paramRules
        = .ok (some ⟨"filters.size", .notInteger⟩) ∧
      config.tokenViolations size "filters.size" "in:2,3" = .ok [] ∧
      config.tokenViolations { size with rules := none } "filters.size" "in:2,3" = .ok [] := by
  intro size config
  have hinteger : standard.check "filters.size" "abc" "integer"
      = .ok (some ⟨"filters.size", .notInteger⟩) := by decide +kernel
  have haccepted : config.tokenViolations size "filters.size" "in:2,3" = .ok [] := by
    decide +kernel
  obtain ⟨-, hkind, hnarrow⟩ :=
    rule_strings_compose.2.2 config size "filters.size" "abc" "in:2,3"
  exact ⟨hinteger, hkind "integer" rfl _ hinteger, haccepted, hnarrow haccepted⟩

/-- Blank parts are passed over, and an unknown rule behind one that fails is not met. -/
example :
    standard.checkInto [] "code" " " (" |required|" ++ "|" ++ "colour|min:1")
        = ⟨[⟨"code", .missing⟩], .ok false⟩ ∧
      standard.checkInto [] "code" "ab" (" |required|" ++ "|" ++ "colour|min:1")
        = ⟨[], .error ⟨"colour"⟩⟩ := by decide +kernel

end Validator

end Listing
