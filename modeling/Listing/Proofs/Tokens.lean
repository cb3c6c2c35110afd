/-
  Listing/Proofs/Tokens.lean
  ==========================
  **Tokens that were checked can be applied.**

  Validation looks at a token through rules, and a backend through the functions
  that make a predicate or a condition of it.  Between the two stands
  `Applicable`: the operator has as many parameters as it takes, and each is a
  value of the filter's kind.  A checked token is applicable, and each backend can
  apply an applicable token.
-/
import Listing.Memory.Predicate
import Listing.Proofs.Verdicts
import Listing.Relational.Condition

namespace Listing

variable {σ ι : Type}

/-! ### Checked tokens -/

/-- The operator can be applied with the parameters: there are as many as it takes, and
    each is a value of the kind. -/
structure Applicable (kind : ValueKind) (op : Operator) (params : List String) : Prop where
  arity : op.arity.accepts params.length = true
  values : ∀ param ∈ params, ∃ value, Relational.value? kind param = some value

namespace Config

variable {config : Config σ ι}

/-- A token in which nothing is wrong names an operator that the filter supports, has as
    many parameters as the operator takes, and each of them passes the filter's rules. -/
theorem exists_operator_of_tokenViolations {filter : FilterType σ} {field text : String}
    (h : config.tokenViolations filter field text = .ok []) :
    ∃ op, (Token.ofText text).operator? = some op ∧ filter.supports op = true ∧
      op.arity.accepts (Token.ofText text).params.length = true ∧
      ∀ param ∈ (Token.ofText text).params,
        config.validator.check field param filter.paramRules = .ok none := by
  unfold tokenViolations at h
  split at h
  · cases h
  · rename_i hcomplaint
    have hparams := reduceOption_mapM_eq_nil_iff.1 h
    obtain ⟨-, hcomplaint⟩ := Option.or_eq_none_iff.1 hcomplaint
    cases hop : (Token.ofText text).operator? with
    | none =>
      simp only [hop] at hcomplaint
      cases hcomplaint
    | some op =>
      simp only [hop] at hcomplaint
      split at hcomplaint
      · rename_i hsupports
        have harity : (Token.ofText text).hasValidArity = true := by
          by_contra hbad
          simp [tokenArityRule, hbad] at hcomplaint
        rw [Token.hasValidArity, hop, Option.any_some] at harity
        exact ⟨op, rfl, hsupports, harity, hparams⟩
      · cases hcomplaint

/-- A parameter that passes the filter's rules passes the rule of the filter's kind. -/
theorem passes_kind_rule {filter : FilterType σ} {kind : ValueKind} {field param name : String}
    {rule : Rule} (h : config.validator.check field param filter.paramRules = .ok none)
    (hkind : filter.kind = kind) (hname : kind.rule? = some name)
    (hrule : Rule.standard.lookup name = some rule) : rule field param [] = none := by
  have hcall : RuleCall.all name = [⟨name, []⟩] ∧ name ≠ "filter_type" ∧
      name ≠ "filter_param_count" := by
    cases kind <;> cases hname <;> decide
  have hmem : (⟨name, []⟩ : RuleCall) ∈ RuleCall.all filter.paramRules := by
    rw [FilterType.all_paramRules, hkind, hname]
    simp [hcall.1]
  obtain ⟨found, hfound, hpasses⟩ := Validator.check_eq_none_iff.1 h _ hmem
  rw [config.rule?_standard hcall.2.1 hcall.2.2, hrule] at hfound
  exact Option.some.inj hfound ▸ hpasses

theorem exists_value_of_check {filter : FilterType σ} {field param : String}
    (h : config.validator.check field param filter.paramRules = .ok none) :
    ∃ value, Relational.value? filter.kind param = some value := by
  cases hkind : filter.kind with
  | text => exact ⟨.text param, rfl⟩
  | integer =>
    have hpasses : Rule.integer field param [] = none := passes_kind_rule h hkind rfl rfl
    obtain ⟨n, hn⟩ := Option.isSome_iff_exists.1 (Rule.ofTest_eq_none_iff.1 hpasses)
    exact ⟨.integer n, by simp only [Relational.value?, hn, Option.map_some]⟩
  | float =>
    have hpasses : Rule.numeric field param [] = none := passes_kind_rule h hkind rfl rfl
    obtain ⟨x, hx, -⟩ := (Option.any_eq_true _ _).1 (Rule.ofTest_eq_none_iff.1 hpasses)
    exact ⟨.float x, by simp only [Relational.value?, hx, Option.map_some]⟩
  | boolean =>
    have hpasses : Rule.boolean field param [] = none := passes_kind_rule h hkind rfl rfl
    obtain ⟨b, hb⟩ := Option.isSome_iff_exists.1 (Rule.ofTest_eq_none_iff.1 hpasses)
    exact ⟨.boolean b, by simp only [Relational.value?, hb, Option.map_some]⟩

theorem applicable_of_tokenViolations {filter : FilterType σ} {field text : String}
    (h : config.tokenViolations filter field text = .ok []) :
    ∃ op, (Token.ofText text).operator? = some op ∧
      Applicable filter.kind op (Token.ofText text).params := by
  obtain ⟨op, hop, -, harity, hparams⟩ := exists_operator_of_tokenViolations h
  exact ⟨op, hop, harity, fun param hmem => exists_value_of_check (hparams param hmem)⟩

end Config

/-! ### Backends -/

/-- What a number of parameters that an operator takes looks like. -/
theorem Operator.params_of_accepts {α : Type} {op : Operator} {params : List α}
    (h : op.arity.accepts params.length = true) :
    match op.arity with
    | .zero => params = []
    | .one => ∃ param, params = [param]
    | .two => ∃ first second, params = [first, second]
    | .unlimited => ∃ first rest, params = first :: rest := by
  cases harity : op.arity with
  | zero =>
    rw [harity] at h
    exact List.length_eq_zero_iff.1 (eq_of_beq h)
  | one =>
    rw [harity] at h
    exact List.length_eq_one_iff.1 (eq_of_beq h)
  | two =>
    rw [harity] at h
    exact List.length_eq_two.1 (eq_of_beq h)
  | unlimited =>
    rw [harity] at h
    exact List.exists_cons_of_length_pos (of_decide_eq_true h)

/-- In memory, an applicable token is a predicate. -/
theorem Applicable.exists_predicate {kind : ValueKind} {op : Operator} {params : List String}
    (h : Applicable kind op params) : ∃ holds, Memory.predicate op params = .ok holds := by
  have hparams := Operator.params_of_accepts h.arity
  cases op with
  | empty => exact ⟨_, rfl⟩
  | notEmpty => exact ⟨_, rfl⟩
  | between | notBetween =>
    obtain ⟨low, high, rfl⟩ := hparams
    exact ⟨_, rfl⟩
  | isIn | notIn =>
    obtain ⟨first, rest, rfl⟩ := hparams
    exact ⟨_, rfl⟩
  | _ =>
    obtain ⟨param, rfl⟩ := hparams
    exact ⟨_, rfl⟩

namespace Relational

theorem coerce_of_value? {kind : ValueKind} {raw : String} {value : Sql.Value}
    (h : value? kind raw = some value) : coerce kind raw = .ok value := by
  simp only [coerce, h]

theorem value?_of_coerce {kind : ValueKind} {raw : String} {value : Sql.Value}
    (h : coerce kind raw = .ok value) : value? kind raw = some value := by
  unfold coerce at h
  split at h
  · rename_i found hfound
    cases h
    exact hfound
  · cases h

section Parts

variable {column : Sql.Column} {kind : ValueKind} {op : Operator}

theorem comparing_eq_ok {param : String} {value : Sql.Value} (h : coerce kind param = .ok value)
    (comparison : Sql.Comparison) :
    comparing column kind op [param] comparison = .ok (.compare column comparison value) := by
  have hbind : comparing column kind op [param] comparison
      = coerce kind param >>= fun value => .ok (.compare column comparison value) := rfl
  rw [hbind, h]
  rfl

theorem bounds_eq_ok {low high : String} {least greatest : Sql.Value}
    (hlow : coerce kind low = .ok least) (hhigh : coerce kind high = .ok greatest)
    (negated : Bool) :
    bounds column kind op [low, high] negated = .ok (.between column negated least greatest) := by
  have hbind : bounds column kind op [low, high] negated
      = coerce kind low >>= fun least => coerce kind high >>= fun greatest =>
        .ok (.between column negated least greatest) := rfl
  rw [hbind, hlow, hhigh]
  rfl

theorem listed_eq_ok {first : String} {rest : List String} {values : List Sql.Value}
    (h : (first :: rest).mapM (coerce kind) = .ok values) (negated : Bool) :
    listed column kind op (first :: rest) negated = .ok (.isIn column negated values) := by
  have hbind : listed column kind op (first :: rest) negated
      = (first :: rest).mapM (coerce kind) >>= fun values => .ok (.isIn column negated values) := rfl
  rw [hbind, h]
  rfl

end Parts

end Relational

/-- In a database, an applicable token is a condition. -/
theorem Applicable.exists_condition {kind : ValueKind} {op : Operator} {params : List String}
    (h : Applicable kind op params) (field : String) :
    ∃ condition, Relational.condition field kind op params = .ok condition := by
  have hparams := Operator.params_of_accepts h.arity
  have hcoerce : ∀ param ∈ params, ∃ value, Relational.coerce kind param = .ok value := by
    intro param hmem
    obtain ⟨value, hvalue⟩ := h.values param hmem
    exact ⟨value, Relational.coerce_of_value? hvalue⟩
  cases op with
  | empty => exact ⟨_, rfl⟩
  | notEmpty => exact ⟨_, rfl⟩
  | ne =>
    obtain ⟨param, rfl⟩ := hparams
    obtain ⟨value, hvalue⟩ := hcoerce param List.mem_cons_self
    exact ⟨_, Except.map_eq_ok_iff.2 ⟨_, Relational.comparing_eq_ok hvalue _, rfl⟩⟩
  | eq | lt | gt | lte | gte =>
    obtain ⟨param, rfl⟩ := hparams
    obtain ⟨value, hvalue⟩ := hcoerce param List.mem_cons_self
    exact ⟨_, Relational.comparing_eq_ok hvalue _⟩
  | between =>
    obtain ⟨low, high, rfl⟩ := hparams
    obtain ⟨least, hleast⟩ := hcoerce low List.mem_cons_self
    obtain ⟨greatest, hgreatest⟩ := hcoerce high (List.mem_cons_of_mem _ List.mem_cons_self)
    exact ⟨_, Relational.bounds_eq_ok hleast hgreatest false⟩
  | notBetween =>
    obtain ⟨low, high, rfl⟩ := hparams
    obtain ⟨least, hleast⟩ := hcoerce low List.mem_cons_self
    obtain ⟨greatest, hgreatest⟩ := hcoerce high (List.mem_cons_of_mem _ List.mem_cons_self)
    exact ⟨_, Except.map_eq_ok_iff.2 ⟨_, Relational.bounds_eq_ok hleast hgreatest true, rfl⟩⟩
  | isIn | notIn =>
    obtain ⟨first, rest, rfl⟩ := hparams
    obtain ⟨values, hvalues⟩ := exists_mapM_ok hcoerce
    exact ⟨_, Relational.listed_eq_ok hvalues _⟩
  | _ =>
    obtain ⟨param, rfl⟩ := hparams
    exact ⟨_, rfl⟩

end Listing
