/-
  Listing/Proofs/Opposites.lean
  =============================
  **Operators and their opposites part the items.**

  Each operator has something of its own that it asks of the value of a field
  (`Asks`): a present value with a property, no present value with it, or, for
  *not in*, a present value without it.  A source in memory keeps what its
  operator asks for (`keeps_filter_iff_asks`), so everything about filters is a
  matter of what is asked: an operator and its opposite never keep the same item
  and never lose one, and the operators that compare follow the one order that a
  present value has with a parameter.
-/
import Listing.Proofs.Narrowing

namespace Listing

open Source (Command perform)

variable {ι : Type}

namespace Operator

/-- Operators with those that say the opposite of absent values too. -/
def opposites : List (Operator × Operator) :=
  [(.empty, .notEmpty), (.eq, .ne), (.startsWith, .notStartsWith), (.endsWith, .notEndsWith),
    (.contains, .notContains), (.between, .notBetween)]

theorem ne_and_least_eq_of_mem_opposites {pair : Operator × Operator} (h : pair ∈ opposites) :
    pair.1 ≠ pair.2 ∧ pair.2.least = pair.1.least := by
  have hall : ∀ pair ∈ opposites, pair.1 ≠ pair.2 ∧ pair.2.least = pair.1.least := by decide
  exact hall pair h

/-- The operator that is met by values in an order with the parameter. -/
def ofOrder : Ordering → Operator
  | .lt => .lt
  | .eq => .eq
  | .gt => .gt

theorem ofOrder_mem (order : Ordering) : ofOrder order ∈ [Operator.lt, .eq, .gt] := by
  cases order <;> decide

theorem existsUnique_of_opposite {asked : Operator → Prop} {op negation : Operator}
    (hne : op ≠ negation) (h : asked negation ↔ ¬ asked op) :
    ∃! chosen, chosen ∈ [op, negation] ∧ asked chosen := by
  by_cases hop : asked op
  · refine ⟨op, ⟨List.mem_cons_self, hop⟩, ?_⟩
    rintro chosen ⟨hmem, hasked⟩
    rcases List.mem_pair.1 hmem with rfl | rfl
    · rfl
    · exact absurd hop (h.1 hasked)
  · refine ⟨negation, ⟨List.mem_pair.2 (.inr rfl), h.2 hop⟩, ?_⟩
    rintro chosen ⟨hmem, hasked⟩
    rcases List.mem_pair.1 hmem with rfl | rfl
    · exact absurd hasked hop
    · rfl

end Operator

namespace Memory

/-! ### What an operator asks -/

/-- What an operator asks of the value of a field.  Most operators ask for a value that has a
    property; the opposites of these ask that a value, if there is one, has it not, and *not in*
    asks for a value that has it not.  Nothing is what an operator asks for that lacks a
    parameter. -/
def Asks : Operator → List String → Option Json → Prop
  | .empty, _, value => isEmpty value = true
  | .notEmpty, _, value => isEmpty value = false
  | .eq, param :: _, value => ∃ v ∈ value, compareParam v param = .eq
  | .ne, param :: _, value => ∀ v ∈ value, compareParam v param ≠ .eq
  | .lt, param :: _, value => ∃ v ∈ value, compareParam v param = .lt
  | .gt, param :: _, value => ∃ v ∈ value, compareParam v param = .gt
  | .lte, param :: _, value => ∃ v ∈ value, compareParam v param ≠ .gt
  | .gte, param :: _, value => ∃ v ∈ value, compareParam v param ≠ .lt
  | .startsWith, param :: _, value =>
    ∃ text ∈ value.bind searchText?, Text.lowercase param.toList <+: text
  | .endsWith, param :: _, value =>
    ∃ text ∈ value.bind searchText?, Text.lowercase param.toList <:+ text
  | .contains, param :: _, value =>
    ∃ text ∈ value.bind searchText?, Text.lowercase param.toList <:+: text
  | .notStartsWith, param :: _, value =>
    ∀ text ∈ value.bind searchText?, ¬ Text.lowercase param.toList <+: text
  | .notEndsWith, param :: _, value =>
    ∀ text ∈ value.bind searchText?, ¬ Text.lowercase param.toList <:+ text
  | .notContains, param :: _, value =>
    ∀ text ∈ value.bind searchText?, ¬ Text.lowercase param.toList <:+: text
  | .between, low :: high :: _, value =>
    ∃ v ∈ value, compareParam v low ≠ .lt ∧ compareParam v high ≠ .gt
  | .notBetween, low :: high :: _, value =>
    ∀ v ∈ value, compareParam v low = .lt ∨ compareParam v high = .gt
  | .isIn, first :: rest, value =>
    ∃ v ∈ value, ∃ param ∈ first :: rest, compareParam v param = .eq
  | .notIn, first :: rest, value =>
    ∃ v ∈ value, ∀ param ∈ first :: rest, compareParam v param ≠ .eq
  | _, _, _ => False

attribute [simp] Asks

section Predicates

variable {value : Option Json} {test : Ordering → Bool} {find : List Char → Bool}

theorem any_eq_true_iff_mem {α : Type} {property : α → Bool} {found : Option α} :
    found.any property = true ↔ ∃ x ∈ found, property x = true :=
  Option.any_eq_true property found

theorem comparing_eq_true_iff {param : String} :
    comparing test param value = true ↔ ∃ v ∈ value, test (compareParam v param) = true :=
  any_eq_true_iff_mem

theorem matching_eq_true_iff :
    matching find value = true ↔ ∃ text ∈ value.bind searchText?, find text = true :=
  any_eq_true_iff_mem

theorem within_eq_true_iff {low high : String} :
    within low high value = true ↔
      ∃ v ∈ value, compareParam v low ≠ .lt ∧ compareParam v high ≠ .gt := by
  rw [within, any_eq_true_iff_mem]
  simp only [Bool.and_eq_true, Ordering.isGE_iff_ne_lt, Ordering.isLE_iff_ne_gt]

theorem amongst_eq_true_iff {params : List String} {v : Json} :
    amongst params v = true ↔ ∃ param ∈ params, compareParam v param = .eq := by
  simp only [amongst, List.any_eq_true, Ordering.isEq_iff_eq_eq]

/-- The negation of a predicate that asks for something asks that nothing is so. -/
theorem negate_eq_true_iff {α : Type} {p : Predicate} {found : Option α} {property : α → Prop}
    (h : p value = true ↔ ∃ x ∈ found, property x) :
    negate p value = true ↔ ∀ x ∈ found, ¬ property x := by
  rw [negate, Bool.not_eq_true', ← Bool.not_eq_true, h]
  simp only [not_exists, not_and]

end Predicates

/-- The predicate of an operator holds of what the operator asks for. -/
theorem predicate_iff_asks {op : Operator} {params : List String} {holds : Predicate}
    (h : predicate op params = .ok holds) (value : Option Json) :
    holds value = true ↔ Asks op params value := by
  cases op with
  | empty =>
    cases h
    exact Iff.rfl
  | notEmpty =>
    cases h
    rw [negate, Bool.not_eq_true', Asks]
  | eq | lt | gt | lte | gte =>
    rcases params with _ | ⟨param, rest⟩
    · cases h
    · cases h
      simp only [comparing_eq_true_iff, Asks, Ordering.isEq_iff_eq_eq, Ordering.isLT_iff_eq_lt,
        Ordering.isGT_iff_eq_gt, Ordering.isLE_iff_ne_gt, Ordering.isGE_iff_ne_lt]
  | ne =>
    rcases params with _ | ⟨param, rest⟩
    · cases h
    · cases h
      rw [negate_eq_true_iff comparing_eq_true_iff, Asks]
      simp only [Ordering.isEq_iff_eq_eq]
  | startsWith | endsWith | contains =>
    rcases params with _ | ⟨param, rest⟩
    · cases h
    · cases h
      simp only [matching_eq_true_iff, Asks, List.isPrefixOf_iff_prefix,
        List.isSuffixOf_iff_suffix, Text.occursIn_iff]
  | notStartsWith | notEndsWith | notContains =>
    rcases params with _ | ⟨param, rest⟩
    · cases h
    · cases h
      rw [negate_eq_true_iff matching_eq_true_iff, Asks]
      simp only [List.isPrefixOf_iff_prefix, List.isSuffixOf_iff_suffix, Text.occursIn_iff]
  | between =>
    rcases params with _ | ⟨low, _ | ⟨high, rest⟩⟩
    · cases h
    · cases h
    · cases h
      exact within_eq_true_iff
  | notBetween =>
    rcases params with _ | ⟨low, _ | ⟨high, rest⟩⟩
    · cases h
    · cases h
    · cases h
      rw [negate_eq_true_iff within_eq_true_iff, Asks]
      simp only [not_and_or, not_not]
  | isIn =>
    rcases params with _ | ⟨first, rest⟩
    · cases h
    · cases h
      rw [any_eq_true_iff_mem]
      simp only [amongst_eq_true_iff, Asks]
  | notIn =>
    rcases params with _ | ⟨first, rest⟩
    · cases h
    · cases h
      rw [any_eq_true_iff_mem]
      simp only [Bool.not_eq_true', ← Bool.not_eq_true, amongst_eq_true_iff, Asks, not_exists,
        not_and]

/-! ### Opposites -/

/-- An operator and its opposite never ask for the same, and one of the two is always met. -/
theorem asks_opposite_iff {pair : Operator × Operator} (h : pair ∈ Operator.opposites)
    {params : List String} (hleast : pair.1.least ≤ params.length) (value : Option Json) :
    Asks pair.2 params value ↔ ¬ Asks pair.1 params value := by
  simp only [Operator.opposites, List.mem_cons, List.not_mem_nil, or_false] at h
  rcases h with rfl | rfl | rfl | rfl | rfl | rfl
  · simp
  -- the four operators that compare with their first parameter
  iterate 4
    · obtain ⟨param, rest, rfl⟩ := List.exists_cons_of_length_pos hleast
      simp only [Asks, not_exists, not_and]
  · rcases params with _ | ⟨low, _ | ⟨high, rest⟩⟩
    · cases hleast
    · exact absurd hleast (by decide : ¬ 2 ≤ 1)
    · simp only [Asks, not_exists, not_and, not_not, imp_iff_not_or]

theorem least_le_of_asks {op : Operator} {params : List String} {value : Option Json}
    (h : Asks op params value) : op.least ≤ params.length := by
  cases op with
  | empty | notEmpty => exact Nat.zero_le _
  | between | notBetween =>
    rcases params with _ | ⟨low, _ | ⟨high, rest⟩⟩
    · cases h
    · cases h
    · exact Nat.le_add_left 2 rest.length
  | _ =>
    rcases params with _ | ⟨first, rest⟩
    · cases h
    · exact Nat.le_add_left 1 rest.length

/-! ### Present values -/

section Present

variable {v : Json} {params : List String}

theorem asks_notIn_iff (hparams : params ≠ []) :
    Asks .notIn params (some v) ↔ ¬ Asks .isIn params (some v) := by
  obtain ⟨first, rest, rfl⟩ := List.exists_cons_of_ne_nil hparams
  simp

theorem asks_lte_iff :
    Asks .lte params (some v) ↔ Asks .lt params (some v) ∨ Asks .eq params (some v) := by
  cases params with
  | nil => simp
  | cons param rest => cases h : compareParam v param <;> simp [h]

theorem asks_gte_iff :
    Asks .gte params (some v) ↔ Asks .gt params (some v) ∨ Asks .eq params (some v) := by
  cases params with
  | nil => simp
  | cons param rest => cases h : compareParam v param <;> simp [h]

theorem asks_between_iff {low high : String} {rest : List String} :
    Asks .between (low :: high :: rest) (some v) ↔
      Asks .gte [low] (some v) ∧ Asks .lte [high] (some v) := by
  simp

theorem asks_isIn_iff :
    Asks .isIn params (some v) ↔ ∃ param ∈ params, Asks .eq [param] (some v) := by
  cases params with
  | nil => simp
  | cons first rest => simp

/-- Of the three strict operators a value meets the one of its order with the parameter. -/
theorem asks_iff_eq_ofOrder {param : String} {rest : List String} {op : Operator}
    (hop : op ∈ [Operator.lt, .eq, .gt]) :
    Asks op (param :: rest) (some v) ↔ op = .ofOrder (compareParam v param) := by
  simp only [List.mem_cons, List.not_mem_nil, or_false] at hop
  rcases hop with rfl | rfl | rfl <;> cases h : compareParam v param <;>
    simp [h, Operator.ofOrder]

theorem existsUnique_asks (hparams : params ≠ []) :
    ∃! op, op ∈ [Operator.lt, .eq, .gt] ∧ Asks op params (some v) := by
  obtain ⟨param, rest, rfl⟩ := List.exists_cons_of_ne_nil hparams
  have hmem := Operator.ofOrder_mem (compareParam v param)
  refine ⟨_, ⟨hmem, (asks_iff_eq_ofOrder hmem).2 rfl⟩, ?_⟩
  rintro op ⟨hop, hasks⟩
  exact (asks_iff_eq_ofOrder hop).1 hasks

end Present

/-! ### What a source in memory keeps -/

/-- A source in memory does not take a filter. -/
def Refuses (memory : Memory ι) (filter : Command) : Prop :=
  ∃ error, (perform filter memory).result = .error error

/-- Exactly one of some operators keeps an entry in view. -/
def KeptByOne (memory : Memory ι) (filter : Operator → Command) (ops : List Operator)
    (entry : Entry ι) : Prop :=
  ∃! op, op ∈ ops ∧ memory.Keeps (filter op) entry

/-- The field of an item has a value that is not null. -/
def Present (field : String) (item : Json) : Prop :=
  ∃ value, follow (path field) item = some value ∧ value ≠ .null

theorem present_iff {field : String} {item : Json} :
    Present field item ↔ ∃ v, valueAt item field = some v := by
  have hnull : ∀ value : Json, value ≠ .null ↔ (!value.isNull) = true := by
    intro value
    cases value <;> simp [Json.isNull]
  simp only [Present, valueAt, Option.filter_eq_some_iff, hnull]

section Filters

variable {memory : Memory ι} {field : String} {kind : ValueKind} {op : Operator}
  {params : List String} {entry : Entry ι}

theorem refuses_filter_iff :
    memory.Refuses (.filter field kind op params) ↔ params.length < op.least := by
  rw [← Nat.not_le, ← exists_predicate_iff, Refuses]
  cases h : predicate op params with
  | ok holds => simp [perform_filter_ok h]
  | error error => simp [perform_filter_error h]

theorem keeps_filter_iff_asks (hentry : entry ∈ memory.view) :
    memory.Keeps (.filter field kind op params) entry ↔
      Asks op params (valueAt entry.value field) := by
  cases h : predicate op params with
  | ok holds => rw [keeps_filter_iff h hentry, predicate_iff_asks h]
  | error error =>
    have hresult : (perform (.filter field kind op params) memory).result = .error error := by
      rw [perform_filter_error h]
    refine iff_of_false ?_ ?_
    · rintro ⟨hok, -⟩
      cases hresult.symm.trans hok
    · intro hasks
      obtain ⟨holds, hholds⟩ := exists_predicate_iff.2 (least_le_of_asks hasks)
      cases h.symm.trans hholds

/-- What is kept by one operator is what one operator asks for. -/
theorem keptByOne_iff (hentry : entry ∈ memory.view) {ops : List Operator} :
    memory.KeptByOne (fun op => .filter field kind op params) ops entry ↔
      ∃! op, op ∈ ops ∧ Asks op params (valueAt entry.value field) :=
  existsUnique_congr fun _ => and_congr_right fun _ => keeps_filter_iff_asks hentry

/-- An operator and its opposite are both refused, or each item is kept by one of them. -/
theorem opposites_part {pair : Operator × Operator} (h : pair ∈ Operator.opposites) :
    memory.Refuses (.filter field kind pair.1 params) ∧
        memory.Refuses (.filter field kind pair.2 params) ∨
      ∀ entry ∈ memory.view,
        memory.KeptByOne (fun op => .filter field kind op params) [pair.1, pair.2] entry := by
  obtain ⟨hne, hleast⟩ := Operator.ne_and_least_eq_of_mem_opposites h
  rw [refuses_filter_iff, refuses_filter_iff, hleast, and_self]
  rcases Nat.lt_or_ge params.length pair.1.least with hmissing | henough
  · exact .inl hmissing
  · refine .inr fun entry hentry => ?_
    rw [keptByOne_iff hentry]
    exact Operator.existsUnique_of_opposite hne (asks_opposite_iff h henough _)

/-- *In* and *not in* are both refused, or a present value is kept by one of them and an absent one
    by neither. -/
theorem membership_parts :
    memory.Refuses (.filter field kind .isIn params) ∧
        memory.Refuses (.filter field kind .notIn params) ∨
      ∀ entry ∈ memory.view,
        (Present field entry.value →
          memory.KeptByOne (fun op => .filter field kind op params) [.isIn, .notIn] entry) ∧
        (¬ Present field entry.value →
          ¬ memory.Keeps (.filter field kind .isIn params) entry ∧
            ¬ memory.Keeps (.filter field kind .notIn params) entry) := by
  rw [refuses_filter_iff, refuses_filter_iff]
  by_cases hparams : params = []
  · rw [hparams]
    exact .inl ⟨by decide, by decide⟩
  · refine .inr fun entry hentry => ?_
    rw [keptByOne_iff hentry, keeps_filter_iff_asks hentry, keeps_filter_iff_asks hentry,
      present_iff]
    cases valueAt entry.value field with
    | none =>
      refine ⟨by rintro ⟨_, ⟨⟩⟩, fun _ => ?_⟩
      obtain ⟨first, rest, rfl⟩ := List.exists_cons_of_ne_nil hparams
      simp
    | some v =>
      refine ⟨fun _ => ?_, fun habsent => absurd ⟨v, rfl⟩ habsent⟩
      exact Operator.existsUnique_of_opposite (by decide) (asks_notIn_iff hparams)

/-- How the operators that compare hang together for an entry. -/
structure Coheres (memory : Memory ι) (field : String) (kind : ValueKind) (params : List String)
    (entry : Entry ι) : Prop where
  trichotomy : params ≠ [] →
    memory.KeptByOne (fun op => .filter field kind op params) [.lt, .eq, .gt] entry
  lte_iff : memory.Keeps (.filter field kind .lte params) entry ↔
    memory.Keeps (.filter field kind .lt params) entry ∨
      memory.Keeps (.filter field kind .eq params) entry
  gte_iff : memory.Keeps (.filter field kind .gte params) entry ↔
    memory.Keeps (.filter field kind .gt params) entry ∨
      memory.Keeps (.filter field kind .eq params) entry
  between_iff : ∀ low high rest, params = low :: high :: rest →
    (memory.Keeps (.filter field kind .between params) entry ↔
      memory.Keeps (.filter field kind .gte [low]) entry ∧
        memory.Keeps (.filter field kind .lte [high]) entry)
  isIn_iff : memory.Keeps (.filter field kind .isIn params) entry ↔
    ∃ param ∈ params, memory.Keeps (.filter field kind .eq [param]) entry

theorem coheres_of_present (hentry : entry ∈ memory.view) (h : Present field entry.value)
    (kind : ValueKind) (params : List String) : memory.Coheres field kind params entry := by
  obtain ⟨v, hv⟩ := present_iff.1 h
  have hkeeps : ∀ op chosen, memory.Keeps (.filter field kind op chosen) entry ↔
      Asks op chosen (some v) := by
    intro op chosen
    rw [keeps_filter_iff_asks hentry, hv]
  constructor
  · intro hparams
    rw [keptByOne_iff hentry, hv]
    exact existsUnique_asks hparams
  · simp only [hkeeps, asks_lte_iff]
  · simp only [hkeeps, asks_gte_iff]
  · rintro low high rest rfl
    simp only [hkeeps, asks_between_iff]
  · simp only [hkeeps, asks_isIn_iff]

end Filters

/-- **Operators and their opposites part the items of a source in memory.**  A filter is refused
    exactly if it lacks a parameter, and keeps what its operator asks for.  So an operator and its
    opposite are refused together, or every item is kept by one of them and not by the other;
    *in* and *not in* do so to items with a present value and keep no others.  Of a present value
    the order with a parameter decides: one strict operator keeps it, and the others follow. -/
theorem operators_part_view (memory : Memory ι) (field : String) (kind : ValueKind)
    (params : List String) :
    let filter (op : Operator) : Command := .filter field kind op params
    (∀ op, memory.Refuses (filter op) ↔ params.length < op.least) ∧
    (∀ op, ∀ entry ∈ memory.view,
      memory.Keeps (filter op) entry ↔ Asks op params (valueAt entry.value field)) ∧
    (∀ pair ∈ Operator.opposites,
      memory.Refuses (filter pair.1) ∧ memory.Refuses (filter pair.2) ∨
        ∀ entry ∈ memory.view, memory.KeptByOne filter [pair.1, pair.2] entry) ∧
    (memory.Refuses (filter .isIn) ∧ memory.Refuses (filter .notIn) ∨
      ∀ entry ∈ memory.view,
        (Present field entry.value → memory.KeptByOne filter [.isIn, .notIn] entry) ∧
        (¬ Present field entry.value →
          ¬ memory.Keeps (filter .isIn) entry ∧ ¬ memory.Keeps (filter .notIn) entry)) ∧
    ∀ entry ∈ memory.view, Present field entry.value → memory.Coheres field kind params entry := by
  refine ⟨fun _ => refuses_filter_iff, fun _ _ hentry => keeps_filter_iff_asks hentry,
    fun _ hpair => opposites_part hpair, membership_parts, ?_⟩
  intro entry hentry hpresent
  exact coheres_of_present hentry hpresent kind params

/-- A parcel without a colour is not red, and still not one of those outside a list of colours. -/
example :
    let entry : Entry Unit := ⟨0, (), .object [("colour", .null)]⟩
    let kept (op : Operator) : List Nat :=
      (perform (.filter "colour" .text op ["red"]) (ofEntries [entry])).state.view.map
        Entry.position
    kept .eq = [] ∧ kept .ne = [0] ∧ kept .isIn = [] ∧ kept .notIn = [] := by
  decide +kernel

end Memory

end Listing
