/-
  Listing/Proofs/Rules.lean
  =========================
  **Rule strings and the checks that they stand for.**

  Rule strings that are joined stand for the rules of the one and then those of
  the other (`all_join`), so a string of the listing's own never hides the rule of
  a filter's kind (`all_paramRules`).  The rule strings of the page parameters are
  taken apart too, around the decimals that they contain.
-/
import Listing.Query.Validation
import Mathlib.Data.List.Basic

namespace Listing

/-! ### Decimals inside a rule string -/

namespace Text

theorem isBlank_of_isDigit {c : Char} (h : c.isDigit = true) : isBlank c = false := by
  simp only [Char.isDigit, Bool.and_eq_true, decide_eq_true_eq] at h
  have hlow : 48 ≤ c.toNat := h.1
  have hhigh : c.toNat ≤ 57 := h.2
  simp only [isBlank, Bool.or_eq_false_iff, Bool.and_eq_false_iff, decide_eq_false_iff_not,
    beq_eq_false_iff_ne]
  omega

/-- A decimal ends with a digit, so nothing is trimmed from a text that it ends. -/
theorem trim_append_decimal {c : Char} {cs : List Char} (h : isBlank c = false) (n : Nat) :
    trim (c :: cs ++ decimal n) = c :: cs ++ decimal n := by
  refine trim_of_notBlank ?_ ?_
  · rintro d ⟨⟩
    exact h
  · intro d hd
    rw [List.getLast?_append_of_ne_nil _ (decimal_ne_nil n)] at hd
    exact isBlank_of_isDigit (isDigit_of_mem_decimal (List.mem_of_getLast? hd))

theorem trim_decimal (n : Nat) : trim (decimal n) = decimal n := by
  refine trim_of_notBlank ?_ ?_
  · intro d hd
    exact isBlank_of_isDigit (isDigit_of_mem_decimal (List.mem_of_head? hd))
  · intro d hd
    exact isBlank_of_isDigit (isDigit_of_mem_decimal (List.mem_of_getLast? hd))

end Text

/-! ### Taking rule strings apart -/

namespace RuleCall

open Text (pieces trim decimal)

/-- The rules of joined strings are those of the one and then those of the other. -/
theorem all_join (first second : String) :
    all (first ++ "|" ++ second) = all first ++ all second := by
  have htext : (first ++ "|" ++ second).toList = first.toList ++ '|' :: second.toList := by
    simp [String.toList_append]
  simp only [all, htext, Text.pieces_append, List.map_append, List.filter_append]

theorem ofText_decimal {name : List Char} (h : ':' ∉ name) (n : Nat) :
    ofText (name ++ ':' :: decimal n) = ⟨String.ofList name, [String.ofList (decimal n)]⟩ := by
  have hcomma : ',' ∉ decimal n := Text.notMem_decimal (by decide) n
  simp only [ofText, Text.cut?_append h, Text.pieces_of_notMem hcomma, List.map_cons, List.map_nil,
    Text.trim_decimal]

theorem all_bounds {rules : String} (least greatest : Nat)
    (h : rules.toList = "integer".toList ++ '|' :: ("min:".toList ++ decimal least
      ++ '|' :: ("max:".toList ++ decimal greatest))) :
    all rules = [⟨"integer", []⟩, ⟨"min", [String.ofList (decimal least)]⟩,
      ⟨"max", [String.ofList (decimal greatest)]⟩] := by
  have hpieces : pieces '|' rules.toList = ["integer".toList, "min:".toList ++ decimal least,
      "max:".toList ++ decimal greatest] := by
    have hbar : ∀ n, '|' ∉ decimal n := Text.notMem_decimal (by decide)
    rw [h, Text.pieces_append, Text.pieces_append, Text.pieces_of_notMem (by decide),
      Text.pieces_of_notMem (by simp [hbar]), Text.pieces_of_notMem (by simp [hbar])]
    rfl
  have hinteger : trim "integer".toList = "integer".toList := by decide
  have hmin : trim ("min:".toList ++ decimal least) = "min".toList ++ ':' :: decimal least :=
    Text.trim_append_decimal (by decide) least
  have hmax : trim ("max:".toList ++ decimal greatest) = "max".toList ++ ':' :: decimal greatest :=
    Text.trim_append_decimal (by decide) greatest
  simp only [all, hpieces, List.map_cons, List.map_nil, hinteger, hmin, hmax]
  rw [List.filter_cons_of_pos (by decide), List.filter_cons_of_pos (by simp),
    List.filter_cons_of_pos (by simp), List.filter_nil]
  simp only [List.map_cons, List.map_nil]
  rw [ofText_decimal (by decide), ofText_decimal (by decide)]
  rfl

end RuleCall

/-! ### Rules of a filter's parameters -/

theorem FilterType.all_paramRules {σ : Type} (filter : FilterType σ) :
    RuleCall.all filter.paramRules
      = (filter.kind.rule?.toList ++ filter.rules.toList).flatMap RuleCall.all := by
  cases hkind : filter.kind.rule? with
  | none =>
    cases hrules : filter.rules with
    | none => simp only [paramRules, hkind, hrules]; rfl
    | some rules => simp [paramRules, hkind, hrules]
  | some rule =>
    cases hrules : filter.rules with
    | none => simp [paramRules, hkind, hrules]
    | some rules =>
      have hjoin : filter.paramRules = rule ++ "|" ++ rules := by
        simp only [paramRules, hkind, hrules]
        rfl
      simp [hjoin, RuleCall.all_join]

/-! ### Rules of the page parameters -/

namespace Parameter

open Text (decimal)

theorem toList_toString_nat (n : Nat) : (toString n).toList = decimal n := by
  simp only [toString, Nat.repr, decimal, String.toList_ofList]

theorem all_sizeRules (sizes : PageSizes) :
    RuleCall.all (sizeRules sizes) = [⟨"integer", []⟩, ⟨"min", ["1"]⟩,
      ⟨"max", [String.ofList (decimal sizes.maximum)]⟩] := by
  have htext : (sizeRules sizes).toList = "integer|min:1|max:".toList ++ decimal sizes.maximum := by
    rw [← toList_toString_nat, ← String.toList_append]
    rfl
  exact RuleCall.all_bounds 1 sizes.maximum htext

theorem all_offsetRules :
    RuleCall.all offsetRules = [⟨"integer", []⟩, ⟨"min", ["0"]⟩,
      ⟨"max", [String.ofList (decimal maxOffset)]⟩] := by
  have htext : offsetRules.toList = "integer|min:0|max:".toList ++ decimal maxOffset := by
    rw [← toList_toString_nat, ← String.toList_append]
    rfl
  exact RuleCall.all_bounds 0 maxOffset htext

/-- The least and the greatest number that the rules of a page parameter are written
    with. -/
def bounds? (sizes : PageSizes) : Parameter → Option (Nat × Nat)
  | .limit | .pageSize => some (1, sizes.maximum)
  | .offset | .page => some (0, maxOffset)
  | .fields => none

theorem all_rules {sizes : PageSizes} {parameter : Parameter} {least greatest : Nat}
    (h : parameter.bounds? sizes = some (least, greatest)) :
    RuleCall.all (parameter.rules sizes) = [⟨"integer", []⟩,
      ⟨"min", [String.ofList (decimal least)]⟩, ⟨"max", [String.ofList (decimal greatest)]⟩] := by
  cases parameter with
  | limit | pageSize =>
    cases h
    exact all_sizeRules sizes
  | offset | page =>
    cases h
    exact all_offsetRules
  | fields => cases h

end Parameter

end Listing
