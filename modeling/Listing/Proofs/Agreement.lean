/-
  Listing/Proofs/Agreement.lean
  =============================
  **Two sources that select the same.**

  Filters on texts and truth values mean the same in a table and in memory: the
  rows of which the conditions hold are the rows of the items that stay in view.
  The two are written in different styles, one in the logic of three values, the
  other with predicates on values that may be absent.  They meet in one fact
  (`Mirrors.order_eq`): a cell and the value that mirrors it compare alike with
  every parameter.  From there each condition tests the value that the predicate
  tests, and only the missing value needs a look at the connectives.

  Operators that match are left out: a pattern is matched with case, a text in
  memory without.
-/
import Listing.Proofs.Narrowing
import Listing.Proofs.SqlTruth
import Listing.Relational.Source

namespace Listing

open Memory (amongst compareParam follow path)
open Relational (condition emptyValues orNull value?)
open Source (Command perform run succeeded)
open Sql (Column Comparison Expr Record Selects Truth order?)

variable {σ κ ι τ : Type}

/-! ### Tokens that were checked -/

/-- The parameters of a token are trimmed when it is taken apart. -/
theorem Token.trim_of_mem_params {text param : String} (h : param ∈ (Token.ofText text).params) :
    Text.trim param.toList = param.toList := by
  unfold Token.ofText at h
  split at h
  · rename_i operator params _
    have hread : param ∈ Token.readParams params := h
    unfold Token.readParams at hread
    split at hread
    · cases hread
    · obtain ⟨piece, -, rfl⟩ := List.mem_map.1 hread
      rw [String.toList_ofList, Text.trim_trim]
  · cases h

/-- Whether an operator compares, which is all of them except those that match. -/
def Operator.compares : Operator → Bool
  | .startsWith | .endsWith | .contains | .notStartsWith | .notEndsWith | .notContains => false
  | _ => true

/-- A token of a filter in which nothing is wrong. -/
structure CheckedToken (config : Config σ κ) where
  filter : FilterType σ
  /-- The field under which violations would be reported. -/
  key : String
  text : String
  op : Operator
  operator_eq : (Token.ofText text).operator? = some op
  checked : config.tokenViolations filter key text = .ok []

namespace CheckedToken

variable {config : Config σ κ}

def field (token : CheckedToken config) : String := token.filter.fieldName

def kind (token : CheckedToken config) : ValueKind := token.filter.kind

def params (token : CheckedToken config) : List String := (Token.ofText token.text).params

/-- The call that applies the token. -/
def command (token : CheckedToken config) : Command :=
  .filter token.field token.kind token.op token.params

/-- What the token becomes in a table. -/
def condition (token : CheckedToken config) : Except Error Expr :=
  Relational.condition token.field token.kind token.op token.params

theorem applicable (token : CheckedToken config) :
    Applicable token.kind token.op token.params := by
  obtain ⟨op, hop, happlicable⟩ := Config.applicable_of_tokenViolations token.checked
  cases hop.symm.trans token.operator_eq
  exact happlicable

end CheckedToken

/-! ### Cells and values -/

/-- A cell of a kind and what stands in a field in memory hold the same: a text, a truth value,
    or nothing, which in memory is null or a field that is not there. -/
inductive Mirrors : ValueKind → Option Sql.Value → Option Json → Prop
  | missing (kind : ValueKind) : Mirrors kind none none
  | null (kind : ValueKind) : Mirrors kind none (some .null)
  | text (s : String) : Mirrors .text (some (.text s)) (some (.string s))
  | boolean (b : Bool) : Mirrors .boolean (some (.boolean b)) (some (.bool b))

/-- What stands in a field, null counting as absent. -/
def Memory.present (found : Option Json) : Option Json := found.filter fun value => !value.isNull

open Memory (present)

/-- The parameters that stand for the empty values of a kind. -/
def emptyParams : ValueKind → List String
  | .text => ["", "0"]
  | .integer | .float => ["0"]
  | .boolean => ["false"]

theorem trim_of_mem_emptyParams {kind : ValueKind} {param : String} (h : param ∈ emptyParams kind) :
    Text.trim param.toList = param.toList := by
  cases kind <;> simp only [emptyParams, List.mem_cons, List.not_mem_nil, or_false] at h
  · rcases h with rfl | rfl <;> rfl
  all_goals
    subst h
    rfl

theorem value?_emptyParams (kind : ValueKind) :
    List.Forall₂ (fun param value => value? kind param = some value) (emptyParams kind)
      (emptyValues kind) := by
  cases kind
  · exact .cons rfl (.cons rfl .nil)
  all_goals exact .cons (by decide +kernel) .nil

namespace Mirrors

variable {kind : ValueKind} {cell : Option Sql.Value} {found : Option Json}

/-- A cell and the value that mirrors it compare alike with every parameter.  White space around
    a truth value is cut off for a table only, so the parameter must have none. -/
theorem order_eq (h : Mirrors kind cell found) {param : String} {bound : Sql.Value}
    (htrim : Text.trim param.toList = param.toList) (hbound : value? kind param = some bound) :
    order? cell bound = (present found).map fun value => compareParam value param := by
  cases h with
  | missing | null => rfl
  | text s =>
    cases hbound
    rfl
  | boolean b =>
    have htruth : (Text.truthValue? param).map Sql.Value.boolean = some bound := by
      rw [← hbound, value?, htrim, String.ofList_toList]
    obtain ⟨c, hc, rfl⟩ := Option.map_eq_some_iff.1 htruth
    have hcompare : compareParam (.bool b) param = compare b c := by
      simp only [compareParam, hc]
    exact congrArg some hcompare.symm

theorem isNone_eq (h : Mirrors kind cell found) : cell.isNone = (present found).isNone := by
  cases h <;> rfl

/-- A value counts as empty when it is one of the empty values. -/
theorem isEmpty_eq (h : Mirrors kind cell found) {value : Json}
    (hvalue : present found = some value) :
    Memory.isEmpty (some value) = amongst (emptyParams kind) value := by
  cases h with
  | missing | null => cases hvalue
  | text s =>
    cases hvalue
    have heq : ∀ t : String, (compare s t).isEq = (s == t) := by
      intro t
      rw [Bool.eq_iff_iff, Ordering.isEq_iff_eq_eq, Std.LawfulEqOrd.compare_eq_iff_eq, beq_iff_eq]
    simp only [Memory.isEmpty, amongst, emptyParams, compareParam, List.any_cons, List.any_nil,
      Bool.or_false, heq]
  | boolean b =>
    cases hvalue
    cases b <;> decide

end Mirrors

/-! ### One condition -/

namespace Mirrors

section Conditions

variable {record : Record} {column : Column} {kind : ValueKind} {op : Operator}
  {found : Option Json} (h : Mirrors kind (record column) found)
include h

theorem truth_comparing {param : String} (htrim : Text.trim param.toList = param.toList)
    {comparison : Comparison} {e : Expr}
    (he : Relational.comparing column kind op [param] comparison = .ok e) :
    e.truth record
      = .ofOption ((present found).map fun value =>
          comparison.accepts (compareParam value param)) := by
  obtain ⟨_, ⟨⟩, he⟩ := Except.bind_eq_ok_iff.1 he
  obtain ⟨bound, hbound, ⟨⟩⟩ := Except.bind_eq_ok_iff.1 he
  exact Expr.truth_compare (h.order_eq htrim (Relational.value?_of_coerce hbound)) comparison

theorem truth_bounds {low high : String} (hlow : Text.trim low.toList = low.toList)
    (hhigh : Text.trim high.toList = high.toList) {negated : Bool} {e : Expr}
    (he : Relational.bounds column kind op [low, high] negated = .ok e) :
    e.truth record
      = .ofOption ((present found).map fun value =>
          negated ^^ ((compareParam value low).isGE && (compareParam value high).isLE)) := by
  obtain ⟨_, ⟨⟩, he⟩ := Except.bind_eq_ok_iff.1 he
  obtain ⟨least, hleast, he⟩ := Except.bind_eq_ok_iff.1 he
  obtain ⟨_, ⟨⟩, he⟩ := Except.bind_eq_ok_iff.1 he
  obtain ⟨greatest, hgreatest, ⟨⟩⟩ := Except.bind_eq_ok_iff.1 he
  exact Expr.truth_between (h.order_eq hlow (Relational.value?_of_coerce hleast))
    (h.order_eq hhigh (Relational.value?_of_coerce hgreatest)) negated

theorem truth_isIn {params : List String} {bounds : List Sql.Value} (hne : params ≠ [])
    (htrim : ∀ param ∈ params, Text.trim param.toList = param.toList)
    (hbounds : List.Forall₂ (fun param bound => value? kind param = some bound) params bounds)
    (negated : Bool) :
    (Expr.isIn column negated bounds).truth record
      = .ofOption ((present found).map fun value => negated ^^ amongst params value) := by
  have horders : List.Forall₂ (fun param bound => order? (record column) bound
      = (present found).map fun value => compareParam value param) params bounds := by
    refine ((List.forall₂_and_left _ _).2 ⟨htrim, hbounds⟩).imp ?_
    rintro param bound ⟨hparam, hbound⟩
    exact h.order_eq hparam hbound
  exact Expr.truth_isIn hne horders negated

theorem truth_listed {first : String} {rest : List String}
    (htrim : ∀ param ∈ first :: rest, Text.trim param.toList = param.toList) {negated : Bool}
    {e : Expr} (he : Relational.listed column kind op (first :: rest) negated = .ok e) :
    e.truth record
      = .ofOption ((present found).map fun value => negated ^^ amongst (first :: rest) value) := by
  obtain ⟨_, ⟨⟩, he⟩ := Except.bind_eq_ok_iff.1 he
  obtain ⟨bounds, hbounds, ⟨⟩⟩ := Except.bind_eq_ok_iff.1 he
  have hvalues := (mapM_eq_ok_iff.1 hbounds).imp fun _ _ => Relational.value?_of_coerce
  exact h.truth_isIn (List.cons_ne_nil first rest) htrim hvalues negated

/-- Being empty is being missing or one of the empty values. -/
theorem truth_isIn_emptyValues (negated : Bool) :
    (Expr.isIn column negated (emptyValues kind)).truth record
      = .ofOption ((present found).map fun value => negated ^^ Memory.isEmpty (some value)) := by
  have hne : emptyParams kind ≠ [] := by cases kind <;> decide
  rw [h.truth_isIn hne (fun _ => trim_of_mem_emptyParams) (value?_emptyParams kind)]
  refine congrArg Truth.ofOption (Option.map_congr ?_)
  intro value hvalue
  rw [h.isEmpty_eq hvalue]

theorem truth_isNull (negated : Bool) :
    (Expr.isNull column negated).truth record
      = .ofOption (some (negated ^^ (present found).isNone)) := by
  rw [Expr.truth, h.isNone_eq]

/-- With a way out for missing values, the condition holds unless a present value fails it. -/
theorem orNull_holds_iff {e : Expr} {test : Json → Bool}
    (htruth : e.truth record = .ofOption ((present found).map fun value => true ^^ test value)) :
    (orNull column e).truth record = .holds ↔ (present found).any test = false := by
  rw [orNull, Expr.truth, Truth.or_eq_holds_iff, htruth, h.truth_isNull,
    Truth.ofOption_map_eq_holds_iff]
  cases present found with
  | none => simp [Truth.ofOption_eq_holds_iff]
  | some value => simp [Truth.ofOption_eq_holds_iff]

end Conditions

/-- **One filter.**  The condition that a table is given holds of a row exactly when the
    predicate that is asked in memory holds of the value that the row mirrors. -/
theorem truth_iff_predicate {record : Record} {field : String} {kind : ValueKind}
    {found : Option Json} (h : Mirrors kind (record ⟨none, field⟩) found) {op : Operator}
    {params : List String} (happlicable : Applicable kind op params)
    (htrim : ∀ param ∈ params, Text.trim param.toList = param.toList)
    (hcompares : op.compares = true) {e : Expr} {holds : Memory.Predicate}
    (he : condition field kind op params = .ok e)
    (hholds : Memory.predicate op params = .ok holds) :
    e.truth record = .holds ↔ holds (present found) = true := by
  have hparams := Operator.params_of_accepts happlicable.arity
  cases op with
  | empty =>
    cases he
    cases hholds
    rw [Expr.truth, Truth.or_eq_holds_iff, h.truth_isNull, h.truth_isIn_emptyValues]
    cases present found with
    | none => simp [Truth.ofOption_eq_holds_iff, Memory.isEmpty]
    | some value => simp [Truth.ofOption_eq_holds_iff]
  | notEmpty =>
    cases he
    cases hholds
    rw [Expr.truth, Truth.and_eq_holds_iff, h.truth_isNull, h.truth_isIn_emptyValues]
    cases present found with
    | none => simp [Truth.ofOption_eq_holds_iff, Memory.negate, Memory.isEmpty]
    | some value => simp [Truth.ofOption_eq_holds_iff, Memory.negate]
  | eq | lt | gt | lte | gte =>
    obtain ⟨param, rfl⟩ := hparams
    cases hholds
    rw [h.truth_comparing (htrim param List.mem_cons_self) he, Truth.ofOption_map_eq_holds_iff]
    rfl
  | ne =>
    obtain ⟨param, rfl⟩ := hparams
    cases hholds
    obtain ⟨test, htest, rfl⟩ := Except.map_eq_ok_iff.1 he
    have htruth := h.truth_comparing (htrim param List.mem_cons_self) htest
    have hnot : ∀ order : Ordering, Comparison.notEqual.accepts order = (true ^^ order.isEq) := by
      decide
    simp only [hnot] at htruth
    rw [h.orNull_holds_iff htruth, Memory.negate, Bool.not_eq_true']
    rfl
  | between =>
    obtain ⟨low, high, rfl⟩ := hparams
    cases hholds
    have htruth := h.truth_bounds (htrim low (by simp)) (htrim high (by simp)) he
    rw [htruth, Truth.ofOption_map_eq_holds_iff]
    simp only [Bool.false_xor]
    rfl
  | notBetween =>
    obtain ⟨low, high, rfl⟩ := hparams
    cases hholds
    obtain ⟨test, htest, rfl⟩ := Except.map_eq_ok_iff.1 he
    have htruth := h.truth_bounds (htrim low (by simp)) (htrim high (by simp)) htest
    rw [h.orNull_holds_iff htruth, Memory.negate, Bool.not_eq_true']
    rfl
  | isIn | notIn =>
    obtain ⟨first, rest, rfl⟩ := hparams
    cases hholds
    rw [h.truth_listed htrim he, Truth.ofOption_map_eq_holds_iff]
    simp only [Bool.false_xor, Bool.true_xor]
  | startsWith | endsWith | contains | notStartsWith | notEndsWith | notContains =>
    cases hcompares

end Mirrors

/-! ### One token -/

namespace CheckedToken

variable {config : Config σ κ}

def test (token : CheckedToken config) : Memory.Test := ⟨token.field, token.op, token.params⟩

/-- A cell of the token's column and the token's field of an item hold the same. -/
def Mirrored (token : CheckedToken config) (record : Record) (item : Json) : Prop :=
  Mirrors token.kind (record ⟨none, token.field⟩) (follow (path token.field) item)

theorem truth_iff_passes {token : CheckedToken config} {record : Record} {item : Json} {e : Expr}
    (hcompares : token.op.compares = true) (h : token.Mirrored record item)
    (he : token.condition = .ok e) : e.truth record = .holds ↔ token.test.passes item = true := by
  obtain ⟨holds, hholds⟩ := token.applicable.exists_predicate
  have hpasses : token.test.passes item
      = holds (present (follow (path token.field) item)) := by
    simp only [Memory.Test.passes, test, hholds]
    rfl
  rw [hpasses]
  exact h.truth_iff_predicate token.applicable (fun _ => Token.trim_of_mem_params) hcompares he
    hholds

theorem perform_table (token : CheckedToken config) {e : Expr} (he : token.condition = .ok e)
    (source : Relational τ) :
    perform token.command source
      = ⟨{ source with conditions := source.conditions ++ [e] }, [], .ok none⟩ := by
  rw [command, perform, Action.bind, Relational.addFilter_of_condition he]
  rfl

/-- A source in memory takes every token that was checked. -/
theorem succeeded_memory (tokens : List (CheckedToken config)) (memory : Memory ι) :
    succeeded (tokens.map command) memory = tokens.map command := by
  refine Source.succeeded_eq_self ?_ memory
  intro call hmem memory
  obtain ⟨token, -, rfl⟩ := List.mem_map.1 hmem
  obtain ⟨holds, hholds⟩ := token.applicable.exists_predicate
  exact ⟨none, by rw [command, Memory.perform_filter_ok hholds]⟩

/-- A table takes every token too, and adds what each becomes. -/
theorem run_table {tokens : List (CheckedToken config)} {conditions : List Expr}
    (h : List.Forall₂ (fun token e => token.condition = .ok e) tokens conditions)
    (source : Relational τ) :
    succeeded (tokens.map command) source = tokens.map command ∧
      (run (tokens.map command) source).conditions = source.conditions ++ conditions := by
  induction h generalizing source with
  | nil => exact ⟨rfl, (List.append_nil _).symm⟩
  | @cons token e tokens conditions he _ ih =>
    obtain ⟨hsucceeded, hconditions⟩ :=
      ih { source with conditions := source.conditions ++ [e] }
    have hperform := token.perform_table he source
    constructor
    · rw [List.map_cons, succeeded, hperform, hsucceeded]
    · have hrun : run (token.command :: tokens.map command) source
          = run (tokens.map command) (perform token.command source).state := rfl
      rw [List.map_cons, hrun, hperform, hconditions, List.append_assoc]
      rfl

end CheckedToken

/-! ### Any tokens -/

/-- **A table and a source in memory select the same.**  Tokens that were checked and compare
    become conditions, and both sources take them all.  Of a row whose cells hold what the fields
    of an item hold, the conditions hold together exactly when the item stays in view. -/
theorem selects_iff_mem_view {config : Config σ κ} (tokens : List (CheckedToken config))
    (hcompares : ∀ token ∈ tokens, token.op.compares = true) :
    let commands := tokens.map CheckedToken.command
    ∃ conditions, tokens.mapM CheckedToken.condition = .ok conditions ∧
      (∀ source : Relational τ, succeeded commands source = commands ∧
        (run commands source).conditions = source.conditions ++ conditions) ∧
      ∀ memory : Memory ι, succeeded commands memory = commands ∧
        ∀ entry ∈ memory.view, ∀ record : Record,
          (∀ token ∈ tokens, token.Mirrored record entry.value) →
          (Selects record (Expr.all? conditions) ↔ entry ∈ (run commands memory).view) := by
  intro commands
  have hbuild : ∀ token ∈ tokens, ∃ e, token.condition = .ok e := by
    intro token _
    exact token.applicable.exists_condition token.field
  obtain ⟨conditions, hconditions⟩ := exists_mapM_ok hbuild
  have hbuilt := mapM_eq_ok_iff.1 hconditions
  refine ⟨conditions, hconditions, CheckedToken.run_table hbuilt, ?_⟩
  intro memory
  have hsucceeded := CheckedToken.succeeded_memory tokens memory
  refine ⟨hsucceeded, ?_⟩
  intro entry hentry record hmirrored
  have htests : Memory.acceptedTests commands memory = tokens.map CheckedToken.test := by
    rw [Memory.acceptedTests, hsucceeded, List.filterMap_map, ← List.filterMap_eq_map]
    rfl
  rw [Sql.selects_all?_iff, Memory.mem_view_run, htests, List.forall_mem_map]
  constructor
  · intro h
    refine ⟨hentry, ?_⟩
    intro token hmem
    obtain ⟨e, he, hcondition⟩ := exists_of_forall₂ hbuilt token hmem
    exact (CheckedToken.truth_iff_passes (hcompares token hmem) (hmirrored token hmem)
      hcondition).1 (h e he)
  · rintro ⟨-, h⟩ e he
    obtain ⟨token, hmem, hcondition⟩ := exists_of_forall₂ hbuilt.flip e he
    exact (CheckedToken.truth_iff_passes (hcompares token hmem) (hmirrored token hmem)
      hcondition).2 (h token hmem)

/-- A checked token for parcels that are not red and not blue. -/
def colourToken : CheckedToken (parcels Unit Row) where
  filter := .named "colour"
  key := "filters.colour"
  text := "not-in:red,blue"
  op := .notIn
  operator_eq := rfl
  checked := by decide +kernel

/-- A checked token for parcels that were not sold. -/
def unsoldToken : CheckedToken (parcels Unit Row) where
  filter := ⟨"sold", none, none, none, .boolean, none⟩
  key := "filters.sold"
  text := "ne: 1"
  op := .ne
  operator_eq := rfl
  checked := by decide +kernel

/-- A green parcel of which nobody knows whether it was sold: its row is selected, and it stays
    in view. -/
theorem green_parcel_selected :
    let tokens := [colourToken, unsoldToken]
    let row : Row := ⟨.object [("colour", .string "green"), ("sold", .null)], none, none, none⟩
    let memory : Memory Row := ⟨[⟨0, row, row.value⟩], [⟨0, row, row.value⟩], []⟩
    let record : Record := fun column =>
      if column.name = "colour" then some (.text "green") else none
    ∃ conditions, tokens.mapM CheckedToken.condition = .ok conditions ∧
      Selects record (Expr.all? conditions) ∧
      ⟨0, row, row.value⟩ ∈ (run (tokens.map CheckedToken.command) memory).view := by
  intro tokens row memory record
  have hcompares : ∀ token ∈ tokens, token.op.compares = true := by decide
  obtain ⟨conditions, hconditions, -, hview⟩ :=
    selects_iff_mem_view (τ := Row) (ι := Row) tokens hcompares
  have hmirrored : ∀ token ∈ tokens, token.Mirrored record row.value := by
    intro token hmem
    simp only [tokens, List.mem_cons, List.not_mem_nil, or_false] at hmem
    rcases hmem with rfl | rfl
    · exact .text "green"
    · exact .null .boolean
  have hkept : (⟨0, row, row.value⟩ : Entry Row)
      ∈ (run (tokens.map CheckedToken.command) memory).view := List.mem_singleton.2 rfl
  refine ⟨conditions, hconditions, ?_, hkept⟩
  exact ((hview memory).2 _ List.mem_cons_self record hmirrored).2 hkept

end Listing
