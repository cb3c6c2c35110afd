/-
  Listing/Proofs/Bounds.lean
  ==========================
  **Values that keep their bounds.**

  A range rule turns a value away when it measures less than one bound or more than
  the other.  NaN measures neither, so the rule admits it, and yet it lies within no
  bounds (`rangeComplaint_eq_none_iff_within`).  A value measures NaN exactly when its
  text spells NaN (`isNaN_measure_iff`): a decimal is never more than infinity, and
  neither is the length of a text.

  So the parameters of a filter keep the bounds that its rules demand unless they
  spell NaN (`all_kept_iff_of_check`).  The rules of the other kinds refuse these, and
  only a filter by text is left (`kind_eq_text_of_spellsNaN`).
-/
import Listing.Proofs.Magnitudes
import Listing.Proofs.Serving

namespace Listing

variable {σ ι : Type}

namespace Number

open Binary64 (infinite)

/-! ### Magnitudes that are read -/

theorem nearest_le_infinite (n d : Nat) : nearest n d ≤ infinite := Nat.min_le_left _ _

theorem decimalMagnitude_le_infinite (coefficient : Nat) (exponent : Int) :
    Binary64.decimalMagnitude coefficient exponent ≤ infinite := by
  simp only [Binary64.decimalMagnitude]
  split_ifs
  · exact Nat.zero_le _
  · exact Nat.le_refl _
  · exact Nat.zero_le _
  · exact nearest_le_infinite _ _
  · exact nearest_le_infinite _ _

theorem le_infinite_of_unsignedDecimal? {cs : List Char} {n : Nat}
    (h : unsignedDecimal? cs = some n) : n ≤ infinite := by
  simp only [unsignedDecimal?] at h
  obtain ⟨-, h⟩ := Option.ite_none_left_eq_some.1 h
  obtain ⟨power, -, rfl⟩ := Option.map_eq_some_iff.1 h
  exact decimalMagnitude_le_infinite _ _

/-- All words but one are those of infinity. -/
theorem le_infinite_of_word? {cs : List Char} {n : Nat} (h : word? cs = some n)
    (hword : cs.map Char.toLower ≠ "nan".toList) : n ≤ infinite := by
  simp only [word?, if_neg hword] at h
  obtain ⟨-, h⟩ := Option.ite_none_right_eq_some.1 h
  exact Nat.le_of_eq (Option.some.inj h).symm

/-- No magnitude above infinity is read but that of the word for NaN. -/
theorem infinite_lt_magnitude?_iff {cs : List Char} :
    (∃ n, magnitude? cs = some n ∧ infinite < n) ↔ cs.map Char.toLower = "nan".toList := by
  constructor
  · rintro ⟨n, hn, hlt⟩
    by_contra hword
    rcases Option.or_eq_some_iff.1 hn with hn | ⟨-, hn⟩
    · exact Nat.not_lt.2 (le_infinite_of_word? hn hword) hlt
    · exact Nat.not_lt.2 (le_infinite_of_unsignedDecimal? hn) hlt
  · intro hword
    refine ⟨Binary64.undefinedResult, ?_, by decide⟩
    rw [magnitude?, word?, hword]
    rfl

/-- A text without the sign that it may start with. -/
def withoutSign : List Char → List Char
  | '-' :: rest => rest
  | '+' :: rest => rest
  | cs => cs

/-- The texts that denote NaN: the word for it in any letter case, with or without a sign. -/
def SpellsNaN (cs : List Char) : Prop := (withoutSign cs).map Char.toLower = "nan".toList

instance : DecidablePred SpellsNaN := fun _ => inferInstanceAs (Decidable (_ = _))

/-- No truth value is written like NaN. -/
theorem not_spellsNaN_of_truthValue? {cs : List Char}
    (h : (Text.truthValue? (String.ofList cs)).isSome = true) : ¬ SpellsNaN cs := by
  unfold Text.truthValue? at h
  split at h
  case h_5 => cases h
  all_goals
    rename_i hword
    rw [← String.toList_inj, String.toList_ofList] at hword
    rw [hword]
    decide

namespace Binary64

/-- A sign says nothing of the magnitude. -/
theorem map_magnitude_ofText? (cs : List Char) :
    (ofText? cs).map magnitude = magnitude? (withoutSign cs) := by
  unfold ofText? withoutSign
  split <;> simp [Function.comp_def]

theorem isNaN_of_ofText?_iff {cs : List Char} :
    (∃ x, ofText? cs = some x ∧ x.isNaN = true) ↔ SpellsNaN cs := by
  rw [SpellsNaN, ← infinite_lt_magnitude?_iff, ← map_magnitude_ofText?]
  simp only [Option.map_eq_some_iff, isNaN, decide_eq_true_eq]
  constructor
  · rintro ⟨x, hx, hlt⟩
    exact ⟨x.magnitude, ⟨x, hx, rfl⟩, hlt⟩
  · rintro ⟨_, ⟨x, hx, rfl⟩, hlt⟩
    exact ⟨x, hx, hlt⟩

/-! ### The order up to equality -/

/-- Comparison that allows equality; false when either side is NaN. -/
structure AtMost (x y : Binary64) : Prop where
  left_number : x.isNaN = false
  right_number : y.isNaN = false
  le : x.signedMagnitude ≤ y.signedMagnitude

theorem below_eq_false_of_isNaN {x : Binary64} (h : x.isNaN = true) (y : Binary64) :
    x.below y = false ∧ y.below x = false := by
  simp [below, h]

/-- Between numbers, not to be below is to be at least as much. -/
theorem below_eq_false_iff {x y : Binary64} (hx : x.isNaN = false) (hy : y.isNaN = false) :
    x.below y = false ↔ y.AtMost x := by
  simp only [below, hx, hy, Bool.not_false, Bool.true_and, decide_eq_false_iff_not, Int.not_lt]
  exact ⟨fun hle => ⟨hy, hx, hle⟩, AtMost.le⟩

end Binary64

end Number

open Number (Binary64 SpellsNaN)
open Text (trim)

/-! ### Values within bounds -/

theorem isNaN_measure_iff {value : String} :
    (measure value).1.isNaN = true ↔ SpellsNaN (trim value.toList) := by
  rw [← Binary64.isNaN_of_ofText?_iff, measure]
  cases Binary64.ofText? (trim value.toList) with
  | some x => simp
  | none =>
    have hlength : (Binary64.ofNat value.length).isNaN = false :=
      decide_eq_false (Nat.not_lt.2 (Number.nearest_le_infinite _ _))
    simp [hlength]

/-- A quantity lies within the bounds that are given. -/
structure Within (least greatest : Option Binary64) (x : Binary64) : Prop where
  least_atMost : ∀ bound ∈ least, bound.AtMost x
  atMost_greatest : ∀ bound ∈ greatest, x.AtMost bound

theorem within_none (x : Binary64) : Within none none x where
  least_atMost _ h := by cases h
  atMost_greatest _ h := by cases h

/-- A bound that is given is a number. -/
def IsProper (bound : Option Binary64) : Prop := ∀ x ∈ bound, x.isNaN = false

theorem Within.isNaN_eq_false {least greatest : Option Binary64} {x : Binary64}
    (h : Within least greatest x) (hgiven : least.isSome = true ∨ greatest.isSome = true) :
    x.isNaN = false := by
  rcases hgiven with hgiven | hgiven
  · obtain ⟨bound, rfl⟩ := Option.isSome_iff_exists.1 hgiven
    exact (h.least_atMost bound rfl).right_number
  · obtain ⟨bound, rfl⟩ := Option.isSome_iff_exists.1 hgiven
    exact (h.atMost_greatest bound rfl).left_number

section Ranges

variable {value : String} {least greatest : Option Binary64}

/-- The range rule admits what lies within its bounds, and NaN. -/
theorem rangeComplaint_eq_none_iff_within (hleast : IsProper least)
    (hgreatest : IsProper greatest) :
    rangeComplaint value least greatest = none ↔
      SpellsNaN (trim value.toList) ∨ Within least greatest (measure value).1 := by
  rw [Rule.rangeComplaint_eq_none_iff (measure value).eta.symm, ← isNaN_measure_iff]
  by_cases hnumber : (measure value).1.isNaN = true
  · -- neither comparison holds of NaN, so neither bound turns it away
    have hbelow := Binary64.below_eq_false_of_isNaN hnumber
    exact iff_of_true ⟨fun bound _ => (hbelow bound).1, fun bound _ => (hbelow bound).2⟩
      (.inl hnumber)
  · rw [or_iff_right hnumber]
    rw [Bool.not_eq_true] at hnumber
    have hlow : ∀ bound ∈ least,
        ((measure value).1.below bound = false ↔ bound.AtMost (measure value).1) :=
      fun bound hbound => Binary64.below_eq_false_iff hnumber (hleast bound hbound)
    have hhigh : ∀ bound ∈ greatest,
        (bound.below (measure value).1 = false ↔ (measure value).1.AtMost bound) :=
      fun bound hbound => Binary64.below_eq_false_iff (hgreatest bound hbound) hnumber
    constructor
    · rintro ⟨hleast, hgreatest⟩
      exact ⟨fun bound hbound => (hlow bound hbound).1 (hleast bound hbound),
        fun bound hbound => (hhigh bound hbound).1 (hgreatest bound hbound)⟩
    · intro hwithin
      exact ⟨fun bound hbound => (hlow bound hbound).2 (hwithin.least_atMost bound hbound),
        fun bound hbound => (hhigh bound hbound).2 (hwithin.atMost_greatest bound hbound)⟩

/-- What was admitted lies within the bounds unless it spells NaN and there are any. -/
theorem within_iff_of_admitted (hleast : IsProper least) (hgreatest : IsProper greatest)
    (hadmitted : rangeComplaint value least greatest = none) :
    Within least greatest (measure value).1 ↔
      ¬ (SpellsNaN (trim value.toList) ∧ (least.isSome = true ∨ greatest.isSome = true)) := by
  constructor
  · rintro hwithin ⟨hnan, hgiven⟩
    rw [← isNaN_measure_iff, hwithin.isNaN_eq_false hgiven] at hnan
    exact Bool.false_ne_true hnan
  · intro hfree
    rcases (rangeComplaint_eq_none_iff_within hleast hgreatest).1 hadmitted with hnan | hwithin
    · have hnone : least = none ∧ greatest = none := by
        simpa [hnan] using hfree
      rw [hnone.1, hnone.2]
      exact within_none _
    · exact hwithin

end Ranges

/-! ### Bounds of a filter -/

namespace RuleCall

/-- The number that a call of the named rule is written with. -/
def demand? (call : RuleCall) (rule : String) : Option Binary64 :=
  if call.name = rule then (Rule.bound? call.arguments).filter (!·.isNaN) else none

theorem demand?_eq_some_iff {call : RuleCall} {rule : String} {bound : Binary64} :
    call.demand? rule = some bound ↔
      call.name = rule ∧ Rule.bound? call.arguments = some bound ∧ bound.isNaN = false := by
  rw [demand?, Option.ite_none_right_eq_some, Option.filter_eq_some_iff, Bool.not_eq_true']

theorem isProper_demand? (call : RuleCall) (rule : String) : IsProper (call.demand? rule) :=
  fun _ h => (demand?_eq_some_iff.1 h).2.2

/-- The value is within the bounds that the call demands. -/
def Kept (call : RuleCall) (value : String) : Prop :=
  Within (call.demand? "min") (call.demand? "max") (measure value).1

/-- The call demands a bound. -/
def Demands (call : RuleCall) : Prop :=
  (call.demand? "min").isSome = true ∨ (call.demand? "max").isSome = true

end RuleCall

namespace Config

variable {config : Config σ ι} {filter : FilterType σ} {field param : String}

/-- A call that demands a bound is a call of the standard rule of its name. -/
theorem standard_of_demand? {call : RuleCall} {rule standard : Rule} {name : String}
    {bound : Binary64} (hbound : call.demand? name = some bound)
    (hstandard : config.validator.rule? name = some standard)
    (hrule : config.validator.rule? call.name = some rule) :
    rule = standard ∧ Rule.bound? call.arguments = some bound := by
  obtain ⟨rfl, harguments, -⟩ := RuleCall.demand?_eq_some_iff.1 hbound
  rw [hstandard] at hrule
  exact ⟨(Option.some.inj hrule).symm, harguments⟩

/-- A value that passes a call is admitted between the bounds that the call demands. -/
theorem admitted_of_passes {call : RuleCall} {rule : Rule}
    (hrule : config.validator.rule? call.name = some rule)
    (hpasses : rule field param call.arguments = none) :
    rangeComplaint param (call.demand? "min") (call.demand? "max") = none := by
  rw [Rule.rangeComplaint_eq_none_iff (measure param).eta.symm]
  constructor
  · intro bound hbound
    obtain ⟨rfl, harguments⟩ : rule = Rule.atLeast ∧ Rule.bound? call.arguments = some bound :=
      standard_of_demand? hbound (config.rule?_standard (by decide) (by decide)) hrule
    simp only [Rule.atLeast, harguments] at hpasses
    rw [Rule.rangeComplaint_eq_none_iff (measure param).eta.symm] at hpasses
    exact hpasses.1 bound rfl
  · intro bound hbound
    obtain ⟨rfl, harguments⟩ : rule = Rule.atMost ∧ Rule.bound? call.arguments = some bound :=
      standard_of_demand? hbound (config.rule?_standard (by decide) (by decide)) hrule
    simp only [Rule.atMost, harguments] at hpasses
    rw [Rule.rangeComplaint_eq_none_iff (measure param).eta.symm] at hpasses
    exact hpasses.2 bound rfl

/-- A parameter that passes the rules of a filter keeps all bounds that these demand unless it
    spells NaN and there are any. -/
theorem all_kept_iff_of_check
    (h : config.validator.check field param filter.paramRules = .ok none) :
    (∀ call ∈ RuleCall.all filter.paramRules, call.Kept param) ↔
      ¬ (SpellsNaN (trim param.toList) ∧
        ∃ call ∈ RuleCall.all filter.paramRules, call.Demands) := by
  have hone : ∀ call ∈ RuleCall.all filter.paramRules,
      (call.Kept param ↔ ¬ (SpellsNaN (trim param.toList) ∧ call.Demands)) := by
    intro call hcall
    obtain ⟨rule, hrule, hpasses⟩ := Validator.check_eq_none_iff.1 h call hcall
    exact within_iff_of_admitted (call.isProper_demand? "min") (call.isProper_demand? "max")
      (admitted_of_passes hrule hpasses)
  constructor
  · rintro hkept ⟨hnan, call, hcall, hdemands⟩
    exact (hone call hcall).1 (hkept call hcall) ⟨hnan, hdemands⟩
  · intro hfree call hcall
    refine (hone call hcall).2 ?_
    rintro ⟨hnan, hdemands⟩
    exact hfree ⟨hnan, call, hcall, hdemands⟩

/-- The rules of the other kinds refuse NaN. -/
theorem kind_eq_text_of_spellsNaN
    (h : config.validator.check field param filter.paramRules = .ok none)
    (hnan : SpellsNaN (trim param.toList)) : filter.kind = .text := by
  obtain ⟨x, hx, hisNaN⟩ := Binary64.isNaN_of_ofText?_iff.2 hnan
  -- the text is read as NaN, which contradicts what the rule of each other kind tests
  cases hkind : filter.kind with
  | text => rfl
  | integer =>
    have hpasses : Rule.integer field param [] = none := passes_kind_rule h hkind rfl rfl
    obtain ⟨n, hn⟩ := Option.isSome_iff_exists.1 (Rule.ofTest_eq_none_iff.1 hpasses)
    obtain ⟨y, hy, hrounds⟩ :=
      Binary64.exists_rounds_of_integer? (Option.filter_eq_some_iff.1 hn).1
    rw [hx, Option.some.injEq] at hy
    rw [hy, hrounds.isNaN_eq] at hisNaN
    cases hisNaN
  | float =>
    have hpasses : Rule.numeric field param [] = none := passes_kind_rule h hkind rfl rfl
    have hfinite := Rule.ofTest_eq_none_iff.1 hpasses
    rw [hx, Option.any_some] at hfinite
    simp only [Binary64.isFinite, Binary64.isNaN, decide_eq_true_eq] at hfinite hisNaN
    omega
  | boolean =>
    have hpasses : Rule.boolean field param [] = none := passes_kind_rule h hkind rfl rfl
    exact absurd hnan (Number.not_spellsNaN_of_truthValue? (Rule.ofTest_eq_none_iff.1 hpasses))

end Config

/-! ### Values and parameters -/

/-- **What range rules admit lies in range, unless it spells NaN.**  With bounds that are
    numbers, a value that is admitted lies within them in every case but one: a value that
    spells NaN is admitted whatever the bounds are, and lies within none.  The same holds
    of a value that is a parameter of a valid request and the bounds that the rules of its
    filter demand, and only a filter by text lets one pass that spells NaN. -/
theorem within_range_iff (value : String) :
    (∀ least greatest : Option Binary64, IsProper least → IsProper greatest →
      ((rangeComplaint value least greatest = none →
          Within least greatest (measure value).1) ↔
        ¬ (SpellsNaN (trim value.toList) ∧
          (least.isSome = true ∨ greatest.isSome = true)))) ∧
    ∀ {σ ι : Type} (config : Config σ ι) (request : Request) (query : Query),
      Query.ofRequest config request = .ok query →
      ∀ name text, (name, text) ∈ query.filters.carried → value ∈ (Token.ofText text).params →
      ∃ filter, config.filterType? name = some filter ∧
        ((∀ call ∈ RuleCall.all filter.paramRules, call.Kept value) ↔
          ¬ (SpellsNaN (trim value.toList) ∧
            ∃ call ∈ RuleCall.all filter.paramRules, call.Demands)) ∧
        (SpellsNaN (trim value.toList) → filter.kind = .text) := by
  constructor
  · intro least greatest hleast hgreatest
    have hadmitted := @rangeComplaint_eq_none_iff_within value least greatest hleast hgreatest
    constructor
    · rintro hkeeps ⟨hnan, hgiven⟩
      have hnone := hadmitted.2 (.inl hnan)
      exact (within_iff_of_admitted hleast hgreatest hnone).1 (hkeeps hnone) ⟨hnan, hgiven⟩
    · intro hfree hnone
      exact (within_iff_of_admitted hleast hgreatest hnone).2 hfree
  · intro σ ι config request query hvalid name text hcarried hvalue
    obtain ⟨haccepts, rfl⟩ := Query.ofRequest_eq_ok_iff.1 hvalid
    obtain ⟨filter, hfilter, field, hnone⟩ := Query.exists_checked_of_accepts haccepts hcarried
    obtain ⟨-, -, -, -, hparams⟩ := Config.exists_operator_of_tokenViolations hnone
    have hcheck := hparams value hvalue
    exact ⟨filter, hfilter, Config.all_kept_iff_of_check hcheck,
      Config.kind_eq_text_of_spellsNaN hcheck⟩

/-- Parcels by the names of their owners, which have five to nine characters. -/
def ownedParcels : Config Unit Row where
  __ := parcels Unit Row
  filters := [⟨"owner", none, none, some "min:5|max:9", .text, none⟩]
  faultless := rfl

/-- Minus infinity is in range below zero, and so are a name and a number between five and
    nine, by its length and by its value. -/
theorem owners_within_range :
    let minusInfinity : Binary64 := ⟨true, Binary64.infinite⟩
    let request : Request := ⟨"/parcels", [("filters[owner]", "in:Ångström,+7.5e0")]⟩
    rangeComplaint " -1e400 " (some minusInfinity) (some (.ofNat 0)) = none ∧
      Within (some minusInfinity) (some (.ofNat 0)) (measure " -1e400 ").1 ∧
      Query.ofRequest ownedParcels request = .ok (Query.read ownedParcels request) ∧
      ∀ param ∈ ["Ångström", "+7.5e0"],
        ∀ call ∈ RuleCall.all "min:5|max:9", call.Kept param := by
  intro minusInfinity request
  have hproper : ∀ x : Binary64, x.isNaN = false → IsProper (some x) := by
    rintro x hx _ ⟨⟩
    exact hx
  have hadmitted : rangeComplaint " -1e400 " (some minusInfinity) (some (.ofNat 0)) = none := by
    decide +kernel
  have hspelled : ∀ param ∈ ["Ångström", "+7.5e0"], ¬ SpellsNaN (trim param.toList) := by
    decide +kernel
  have hviolations : ownedParcels.violations request = .ok [] := by decide +kernel
  have hvalid : Query.ofRequest ownedParcels request = .ok (Query.read ownedParcels request) :=
    Query.ofRequest_eq_ok_iff.2 ⟨Config.violations_eq_nil_iff.1 hviolations, rfl⟩
  refine ⟨hadmitted, ?_, hvalid, ?_⟩
  · refine ((within_range_iff _).1 _ _ (hproper _ rfl) (hproper _ (by decide +kernel))).2 ?_
      hadmitted
    rintro ⟨hnan, -⟩
    revert hnan
    decide +kernel
  · intro param hparam
    obtain ⟨filter, hfilter, hkept, -⟩ := (within_range_iff param).2 ownedParcels request _ hvalid
      "owner" "in:Ångström,+7.5e0" (by decide +kernel) (by revert param; decide +kernel)
    cases hfilter
    refine hkept.2 ?_
    rintro ⟨hnan, -⟩
    exact hspelled param hparam hnan

/-- An owner that is called NaN has too short a name, and is no number of five or more. -/
theorem nan_admitted_out_of_range :
    let five : Binary64 := .ofNat 5
    let request : Request := ⟨"/parcels", [("filters[owner]", "eq:nan")]⟩
    IsProper (some five) ∧ rangeComplaint "nan" (some five) none = none ∧
      ¬ Within (some five) none (measure "nan").1 ∧
      (∃ query, Query.ofRequest ownedParcels request = .ok query) ∧
      ∃ call ∈ RuleCall.all "min:5|max:9", ¬ call.Kept "nan" := by
  intro five request
  have hviolations : ownedParcels.violations request = .ok [] := by decide +kernel
  have hout : ¬ Within (some five) none (measure "nan").1 := by
    intro hwithin
    have hnumber := (hwithin.least_atMost five rfl).right_number
    revert hnumber
    decide +kernel
  refine ⟨?_, by decide +kernel, hout,
    ⟨_, Query.ofRequest_eq_ok_iff.2 ⟨Config.violations_eq_nil_iff.1 hviolations, rfl⟩⟩,
    ⟨"min", ["5"]⟩, List.mem_cons_self, ?_⟩
  · rintro _ ⟨⟩
    decide +kernel
  · intro hkept
    have hnumber := (hkept.least_atMost five (by decide +kernel)).right_number
    revert hnumber
    decide +kernel

end Listing
