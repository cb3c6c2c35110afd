/-
  Listing/Proofs/Patterns.lean
  ============================
  **Patterns for literal text.**

  What a pattern stands for is said on the pattern as it is written (`Matches`): a
  percent sign stands for any characters, an underscore for any one, a backslash
  makes the character after it stand for itself, and every other character does so
  anyway.  The evaluator of conditions takes the pattern apart first and comes to the
  same (`likes_iff_matches`).

  A text may match in many ways, since a percent sign leaves open where it ends.  An
  escaped text leaves nothing open: whatever stands behind it in the pattern, it takes
  the characters of the text it was made of and no others
  (`matches_escapePattern_append`).  Hence the patterns of the operators find exactly
  the texts that start with, end with or contain the parameter.
-/
import Listing.Proofs.SqlTruth
import Listing.Relational.Condition

namespace Listing

/-! ### What a pattern stands for -/

namespace Sql

/-- A text matches a pattern. -/
inductive Matches : (pattern text : List Char) → Prop where
  | done : Matches [] []
  | run {pattern text : List Char} (skipped : List Char) (rest : Matches pattern text) :
      Matches ('%' :: pattern) (skipped ++ text)
  | one {pattern text : List Char} (c : Char) (rest : Matches pattern text) :
      Matches ('_' :: pattern) (c :: text)
  | escaped {pattern text : List Char} (c : Char) (rest : Matches pattern text) :
      Matches ('\\' :: c :: pattern) (c :: text)
  | itself {c : Char} {pattern text : List Char} (plain : c ≠ '%' ∧ c ≠ '_' ∧ c ≠ '\\')
      (rest : Matches pattern text) : Matches (c :: pattern) (c :: text)

section Inversion

variable {c : Char} {pattern text : List Char}

theorem matches_nil_iff : Matches [] text ↔ text = [] := by
  constructor
  · intro h
    cases h
    rfl
  · rintro rfl
    exact .done

theorem matches_run_iff :
    Matches ('%' :: pattern) text ↔
      ∃ skipped tail, text = skipped ++ tail ∧ Matches pattern tail := by
  constructor
  · intro h
    cases h with
    | run skipped rest => exact ⟨skipped, _, rfl, rest⟩
    | itself plain rest => exact absurd rfl plain.1
  · rintro ⟨skipped, tail, rfl, rest⟩
    exact .run skipped rest

theorem matches_one_iff :
    Matches ('_' :: pattern) text ↔ ∃ c tail, text = c :: tail ∧ Matches pattern tail := by
  constructor
  · intro h
    cases h with
    | one c rest => exact ⟨c, _, rfl, rest⟩
    | itself plain rest => exact absurd rfl plain.2.1
  · rintro ⟨c, tail, rfl, rest⟩
    exact .one c rest

theorem matches_escaped_iff :
    Matches ('\\' :: c :: pattern) text ↔ ∃ tail, text = c :: tail ∧ Matches pattern tail := by
  constructor
  · intro h
    cases h with
    | escaped _ rest => exact ⟨_, rfl, rest⟩
    | itself plain rest => exact absurd rfl plain.2.2
  · rintro ⟨tail, rfl, rest⟩
    exact .escaped c rest

theorem matches_itself_iff (plain : c ≠ '%' ∧ c ≠ '_' ∧ c ≠ '\\') :
    Matches (c :: pattern) text ↔ ∃ tail, text = c :: tail ∧ Matches pattern tail := by
  constructor
  · intro h
    cases h with
    | run skipped rest => exact absurd rfl plain.1
    | one _ rest => exact absurd rfl plain.2.1
    | escaped _ rest => exact absurd rfl plain.2.2
    | itself _ rest => exact ⟨_, rfl, rest⟩
  · rintro ⟨tail, rfl, rest⟩
    exact .itself plain rest

end Inversion

/-! ### The evaluator agrees -/

theorem fits_run_iff {rest : List Wildcard} {text : List Char} :
    fits (.run :: rest) text = true ↔
      ∃ skipped tail, text = skipped ++ tail ∧ fits rest tail = true := by
  simp only [fits, List.any_eq_true, List.mem_tails]
  constructor
  · rintro ⟨tail, ⟨skipped, rfl⟩, hfits⟩
    exact ⟨skipped, tail, rfl, hfits⟩
  · rintro ⟨skipped, tail, rfl, hfits⟩
    exact ⟨tail, List.suffix_append skipped tail, hfits⟩

theorem fits_one_iff {rest : List Wildcard} {text : List Char} :
    fits (.one :: rest) text = true ↔ ∃ c tail, text = c :: tail ∧ fits rest tail = true := by
  cases text <;> simp [fits]

theorem fits_literal_iff {c : Char} {rest : List Wildcard} {text : List Char} :
    fits (.literal c :: rest) text = true ↔ ∃ tail, text = c :: tail ∧ fits rest tail = true := by
  cases text with
  | nil => simp [fits]
  | cons d tail => simp [fits, eq_comm (a := c)]

/-- A pattern can be taken apart, and then its parts fit the text, exactly when the text
    matches. -/
theorem any_fits_iff_matches (pattern text : List Char) :
    (∃ parts, readPattern? pattern = some parts ∧ fits parts text = true) ↔
      Matches pattern text := by
  fun_induction readPattern? pattern generalizing text with
  | case1 => simp [matches_nil_iff, fits]
  | case2 =>
    refine iff_of_false (by simp) ?_
    intro h
    cases h with
    | itself plain rest => exact plain.2.2 rfl
  | case3 d more ih =>
    simp only [Option.map_eq_some_iff, exists_exists_and_eq_and, fits_literal_iff,
      matches_escaped_iff, ← ih]
    tauto
  | case4 c more hslash ih =>
    simp only [Option.map_eq_some_iff, exists_exists_and_eq_and]
    by_cases hrun : c = '%'
    · subst hrun
      simp only [Wildcard.ofChar, if_true, fits_run_iff, matches_run_iff, ← ih]
      tauto
    by_cases hone : c = '_'
    · subst hone
      simp only [Wildcard.ofChar, hrun, if_true, if_false, fits_one_iff, matches_one_iff, ← ih]
      tauto
    · simp only [Wildcard.ofChar, hrun, hone, if_false, fits_literal_iff,
        matches_itself_iff ⟨hrun, hone, hslash⟩, ← ih]
      tauto

theorem likes_iff_matches {pattern text : String} :
    likes pattern text = true ↔ Matches pattern.toList text.toList := by
  rw [likes, Option.any_eq_true, any_fits_iff_matches]

end Sql

/-! ### Literal text in a pattern -/

namespace Relational

open Sql (Expr Matches Record Truth likes likes_iff_matches match? matches_escaped_iff
  matches_itself_iff matches_nil_iff matches_run_iff)

/-- An escaped text takes the characters that it was made of, whatever stands behind it in the
    pattern. -/
theorem matches_escapePattern_append {cs pattern text : List Char} :
    Matches (escapePattern cs ++ pattern) text ↔
      ∃ tail, text = cs ++ tail ∧ Matches pattern tail := by
  induction cs generalizing text with
  | nil => simp [escapePattern]
  | cons c rest ih =>
    have hcons : Matches (escapePattern (c :: rest) ++ pattern) text ↔
        ∃ tail, text = c :: tail ∧ Matches (escapePattern rest ++ pattern) tail := by
      rw [escapePattern, List.flatMap_cons, List.append_assoc]
      split
      · exact matches_escaped_iff
      · rename_i hplain
        simp only [not_or] at hplain
        exact matches_itself_iff hplain
    rw [hcons]
    simp only [ih]
    constructor
    · rintro ⟨_, rfl, tail, rfl, hmatches⟩
      exact ⟨tail, rfl, hmatches⟩
    · rintro ⟨tail, rfl, hmatches⟩
      exact ⟨rest ++ tail, rfl, tail, rfl, hmatches⟩

theorem matches_escapePattern {cs text : List Char} :
    Matches (escapePattern cs) text ↔ text = cs := by
  rw [← List.append_nil (escapePattern cs), matches_escapePattern_append]
  simp [matches_nil_iff]

theorem matches_run (text : List Char) : Matches ['%'] text := by
  rw [matches_run_iff]
  exact ⟨text, [], (List.append_nil text).symm, .done⟩

theorem matches_escapePattern_run {cs text : List Char} :
    Matches (escapePattern cs ++ ['%']) text ↔ cs <+: text := by
  rw [matches_escapePattern_append]
  constructor
  · rintro ⟨tail, rfl, -⟩
    exact List.prefix_append cs tail
  · rintro ⟨tail, rfl⟩
    exact ⟨tail, rfl, matches_run tail⟩

/-- Where an anchor looks for a text in another one. -/
def Anchor.Finds : Anchor → (literal text : List Char) → Prop
  | .start => List.IsPrefix
  | .finish => List.IsSuffix
  | .anywhere => List.IsInfix

/-- The pattern for a text matches where the text is found, whatever characters it has. -/
theorem matches_pattern_iff (anchor : Anchor) (literal text : String) :
    Matches (pattern anchor literal).toList text.toList ↔
      anchor.Finds literal.toList text.toList := by
  cases anchor with
  | start =>
    simp only [pattern, String.toList_ofList]
    exact matches_escapePattern_run
  | finish =>
    simp only [pattern, String.toList_ofList, matches_run_iff, matches_escapePattern]
    constructor
    · rintro ⟨skipped, tail, htext, rfl⟩
      exact ⟨skipped, htext.symm⟩
    · rintro ⟨skipped, htext⟩
      exact ⟨skipped, literal.toList, htext.symm, rfl⟩
  | anywhere =>
    simp only [pattern, String.toList_ofList, List.cons_append, matches_run_iff,
      matches_escapePattern_run]
    constructor
    · rintro ⟨skipped, _, htext, rest, rfl⟩
      exact ⟨skipped, rest, by rw [htext, List.append_assoc]⟩
    · rintro ⟨skipped, rest, htext⟩
      exact ⟨skipped, literal.toList ++ rest, by rw [← htext, List.append_assoc],
        List.prefix_append _ rest⟩

/-- A backslash right before the percent sign of the operator stays a backslash. -/
example : likes (pattern .start "50%\\") "50%\\ off" = true ∧
    likes (pattern .start "50%\\") "50%% off" = false := by
  decide +kernel

/-! ### The operators that match -/

/-- Where an operator that matches looks for its parameter, and whether it wants it not to be
    found there. -/
def anchor? : Operator → Option (Anchor × Bool)
  | .startsWith => some (.start, false)
  | .endsWith => some (.finish, false)
  | .contains => some (.anywhere, false)
  | .notStartsWith => some (.start, true)
  | .notEndsWith => some (.finish, true)
  | .notContains => some (.anywhere, true)
  | _ => none

/-- The condition of an operator that matches holds of the texts in which the parameter is found
    there.  Its negation holds of all other texts, and of a missing value. -/
theorem exists_condition_holds_iff {op : Operator} {anchor : Anchor} {negated : Bool}
    (hop : anchor? op = some (anchor, negated)) (field : String) (kind : ValueKind)
    (literal : String) {record : Record} {cell : Option String}
    (hcell : record ⟨none, field⟩ = cell.map .text) :
    ∃ e, condition field kind op [literal] = .ok e ∧
      (e.truth record = .holds ↔
        if negated then ∀ text ∈ cell, ¬ anchor.Finds literal.toList text.toList
        else ∃ text ∈ cell, anchor.Finds literal.toList text.toList) := by
  have hmatch : match? (record ⟨none, field⟩) (pattern anchor literal)
      = cell.map (likes (pattern anchor literal)) := by
    rw [hcell]
    cases cell <;> rfl
  have hlikes : ∀ text, likes (pattern anchor literal) text = true ↔
      anchor.Finds literal.toList text.toList := by
    intro text
    rw [likes_iff_matches, matches_pattern_iff]
  cases negated with
  | false =>
    refine ⟨.like ⟨none, field⟩ false (pattern anchor literal), ?_, ?_⟩
    · cases op <;> cases hop <;> rfl
    · rw [Expr.truth, hmatch, Truth.negateIf_map, Truth.ofOption_map_eq_holds_iff]
      simp [hlikes, Option.any_eq_true]
  | true =>
    refine ⟨orNull ⟨none, field⟩ (.like ⟨none, field⟩ true (pattern anchor literal)), ?_, ?_⟩
    · cases op <;> cases hop <;> rfl
    · rw [orNull, Expr.truth, Truth.or_eq_holds_iff, Expr.truth, Expr.truth, hmatch,
        Truth.negateIf_map, Truth.ofOption_map_eq_holds_iff, hcell]
      cases cell with
      | none => simp [Truth.ofOption_eq_holds_iff]
      | some text => simp [Truth.ofOption_eq_holds_iff, ← hlikes]

/-- **Literal text in a pattern stands for itself.**  The pattern with which an operator asks a
    table matches exactly the texts that start with the parameter, end with it or contain it,
    whatever wildcards and backslashes the parameter has, and wherever. -/
theorem patterns_find_literal_text (field : String) (kind : ValueKind) (literal : String) :
    (∃ p, condition field kind .startsWith [literal] = .ok (.like ⟨none, field⟩ false p) ∧
      ∀ text : String, Matches p.toList text.toList ↔ literal.toList <+: text.toList) ∧
    (∃ p, condition field kind .endsWith [literal] = .ok (.like ⟨none, field⟩ false p) ∧
      ∀ text : String, Matches p.toList text.toList ↔ literal.toList <:+ text.toList) ∧
    (∃ p, condition field kind .contains [literal] = .ok (.like ⟨none, field⟩ false p) ∧
      ∀ text : String, Matches p.toList text.toList ↔ literal.toList <:+: text.toList) := by
  refine ⟨⟨pattern .start literal, rfl, ?_⟩, ⟨pattern .finish literal, rfl, ?_⟩,
    ⟨pattern .anywhere literal, rfl, ?_⟩⟩
  · intro text
    exact matches_pattern_iff .start literal text
  · intro text
    exact matches_pattern_iff .finish literal text
  · intro text
    exact matches_pattern_iff .anywhere literal text

end Relational

end Listing
