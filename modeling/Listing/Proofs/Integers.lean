/-
  Listing/Proofs/Integers.lean
  ============================
  **Integers that are compared after rounding.**

  A table compares a whole number and a parameter as the integers that they are
  (`truth_iff_compares`).  A source in memory compares the 64-bit numbers nearest to
  them.  That keeps their order but makes one number of several integers from 2^53 on; it
  tells a zero written with a minus sign from zero; and a parameter with white space
  around it is not read as a number at all.  Nothing else goes wrong
  (`compareParam_eq_iff`), and in sorting only the first does.
-/
import Listing.Proofs.Agreement
import Listing.Proofs.Arrangement

namespace Listing

open Number (Binary64)
open Source (Command perform)
open Std (TransCmp)

variable {ι : Type}

/-! ### Numbers and white space -/

namespace Number

/-- No character of a text is white space. -/
def NoBlanks (cs : List Char) : Prop := ∀ c ∈ cs, Text.isBlank c = false

theorem noBlanks_cons {c : Char} {cs : List Char} :
    NoBlanks (c :: cs) ↔ Text.isBlank c = false ∧ NoBlanks cs := List.forall_mem_cons

theorem noBlanks_of_all_isDigit {cs : List Char} (h : cs.all Char.isDigit = true) : NoBlanks cs :=
  fun c hc => Text.isBlank_of_isDigit (List.all_eq_true.1 h c hc)

/-- Digits may stand before anything. -/
theorem noBlanks_of_spanDigits {cs : List Char} (h : NoBlanks (spanDigits cs).2) :
    NoBlanks cs := by
  intro c hc
  rw [← List.takeWhile_append_dropWhile (p := Char.isDigit) (l := cs), List.mem_append] at hc
  rcases hc with hc | hc
  · exact noBlanks_of_all_isDigit List.all_takeWhile c hc
  · exact h c hc

theorem toLower_of_isBlank {c : Char} (h : Text.isBlank c = true) : c.toLower = c := by
  refine dif_neg ?_
  intro hupper
  have hcode : 65 ≤ c.toNat ∧ c.toNat ≤ 90 := hupper
  simp only [Text.isBlank, Bool.or_eq_true, Bool.and_eq_true, decide_eq_true_eq, beq_iff_eq] at h
  omega

theorem noBlanks_of_lower {cs word : List Char} (h : cs.map Char.toLower = word)
    (hword : word.all (!Text.isBlank ·) = true) : NoBlanks cs := by
  intro c hc
  by_contra hblank
  rw [Bool.not_eq_false] at hblank
  have hmem : c ∈ word := by
    rw [← toLower_of_isBlank hblank, ← h]
    exact List.mem_map_of_mem hc
  have hletter := List.all_eq_true.1 hword c hmem
  rw [hblank] at hletter
  cases hletter

theorem noBlanks_of_word? {cs : List Char} {n : Nat} (h : word? cs = some n) : NoBlanks cs := by
  simp only [word?] at h
  split at h
  · rename_i hinfinite
    rcases hinfinite with hword | hword
    · exact noBlanks_of_lower hword rfl
    · exact noBlanks_of_lower hword rfl
  · obtain ⟨hword, -⟩ := Option.ite_none_right_eq_some.1 h
    exact noBlanks_of_lower hword rfl

theorem noBlanks_of_exponent? {cs : List Char} {power : Int} (h : exponent? cs = some power) :
    NoBlanks cs := by
  cases cs with
  | nil => exact List.forall_mem_nil _
  | cons mark rest =>
    simp only [exponent?] at h
    obtain ⟨hmark, h⟩ := Option.ite_none_right_eq_some.1 h
    obtain ⟨hdigits, -⟩ := Option.ite_none_right_eq_some.1 h
    have hmarked : Text.isBlank mark = false := by rcases hmark with rfl | rfl <;> rfl
    refine noBlanks_cons.2 ⟨hmarked, ?_⟩
    split at hdigits
    · exact noBlanks_cons.2 ⟨rfl, noBlanks_of_all_isDigit hdigits.2⟩
    · exact noBlanks_cons.2 ⟨rfl, noBlanks_of_all_isDigit hdigits.2⟩
    · exact noBlanks_of_all_isDigit hdigits.2

theorem noBlanks_of_unsignedDecimal? {cs : List Char} {n : Nat}
    (h : unsignedDecimal? cs = some n) : NoBlanks cs := by
  refine noBlanks_of_spanDigits ?_
  simp only [unsignedDecimal?] at h
  obtain ⟨-, h⟩ := Option.ite_none_left_eq_some.1 h
  obtain ⟨power, hpower, -⟩ := Option.map_eq_some_iff.1 h
  have hafter := noBlanks_of_exponent? hpower
  split at hafter
  · rename_i rest heq
    rw [heq]
    exact noBlanks_cons.2 ⟨rfl, noBlanks_of_spanDigits hafter⟩
  · exact hafter

theorem noBlanks_of_magnitude? {cs : List Char} {n : Nat} (h : magnitude? cs = some n) :
    NoBlanks cs := by
  rcases Option.or_eq_some_iff.1 h with hword | ⟨-, hdecimal⟩
  · exact noBlanks_of_word? hword
  · exact noBlanks_of_unsignedDecimal? hdecimal

/-- A number is read from all of its text, which has no white space. -/
theorem trim_eq_of_ofText? {cs : List Char} {x : Binary64} (h : Binary64.ofText? cs = some x) :
    Text.trim cs = cs := by
  have hblanks : NoBlanks cs := by
    unfold Binary64.ofText? at h
    split at h
    all_goals
      obtain ⟨n, hn, -⟩ := Option.map_eq_some_iff.1 h
      have hrest := noBlanks_of_magnitude? hn
    · exact noBlanks_cons.2 ⟨rfl, hrest⟩
    · exact noBlanks_cons.2 ⟨rfl, hrest⟩
    · exact hrest
  refine Text.trim_of_notBlank ?_ ?_
  · intro c hc
    exact hblanks c (List.mem_of_head? hc)
  · intro c hc
    exact hblanks c (List.mem_of_getLast? hc)

/-! ### Integers after rounding -/

theorem nearest_zero : nearest 0 1 = 0 := by decide +kernel

namespace Binary64

/-- Two integers compare after rounding as they do before, unless one number is made of them. -/
theorem compare_place_ofInt_iff {n m : Int} :
    compare (ofInt n).place (ofInt m).place = compare n m ↔ (n ≠ m → ofInt n ≠ ofInt m) := by
  have hsame : ofInt n = ofInt m ↔ (ofInt n).place = (ofInt m).place :=
    ⟨congrArg place, place_inj⟩
  rw [Ne, Ne, hsame]
  rcases Int.lt_trichotomy n m with hlt | rfl | hgt
  · have hplaces := place_ofInt_mono (Int.le_of_lt hlt)
    rw [Int.compare_eq_lt.2 hlt, Int.compare_eq_lt]
    omega
  · simp
  · have hplaces := place_ofInt_mono (Int.le_of_lt hgt)
    rw [Int.compare_eq_gt.2 hgt, Int.compare_eq_gt]
    omega

/-- An integer of at most 53 bits is rounded to a number of its own. -/
theorem ofInt_ne_of_small {n m : Int} (hn : n.natAbs < 2 * binade) (h : n ≠ m) :
    ofInt n ≠ ofInt m := by
  intro heq
  have hsign : decide (n < 0) = decide (m < 0) := congrArg negative heq
  have hmagnitude : nearest n.natAbs 1 = nearest m.natAbs 1 := congrArg magnitude heq
  rw [decide_eq_decide] at hsign
  rcases Nat.lt_or_gt_of_ne (show n.natAbs ≠ m.natAbs by omega) with hlt | hgt
  · have hless := nearest_lt_of_lt hn hlt
    omega
  · have hless := nearest_lt_of_lt (by omega) hgt
    omega

def minusZero : Binary64 := ⟨true, 0⟩

theorem compare_place_minusZero_iff {n : Int} :
    compare (ofInt n).place minusZero.place = compare n 0 ↔ n ≠ 0 := by
  have hminus : minusZero.place = -1 := rfl
  rcases Int.lt_trichotomy n 0 with hlt | rfl | hgt
  · have hpositive : nearest 0 1 < nearest n.natAbs 1 := nearest_lt_of_lt (by decide) (by omega)
    have hzero := nearest_zero
    have hplace : (ofInt n).place = -(nearest n.natAbs 1 : Int) - 1 := by
      simp only [ofInt, place, hlt, decide_true, if_true]
    rw [Int.compare_eq_lt.2 hlt, Int.compare_eq_lt]
    omega
  · have hplace : (ofInt 0).place = 0 := congrArg Nat.cast nearest_zero
    rw [hplace, hminus]
    decide
  · have hplace : (ofInt n).place = (nearest n.natAbs 1 : Int) := by
      simp only [ofInt, place, Int.not_lt.2 (Int.le_of_lt hgt), decide_false, Bool.false_eq_true,
        if_false]
    rw [Int.compare_eq_gt.2 hgt, Int.compare_eq_gt]
    omega

theorem negative_iff_of_ofText? {cs : List Char} {x : Binary64} (h : ofText? cs = some x) :
    x.negative = true ↔ cs.head? = some '-' := by
  unfold ofText? at h
  split at h
  all_goals obtain ⟨n, -, rfl⟩ := Option.map_eq_some_iff.1 h
  · simp
  · simp
  · rename_i hminus _
    cases cs with
    | nil => simp
    | cons c rest => simpa using fun heq : c = '-' => hminus rest (heq ▸ rfl)

/-- An integer is read as the number nearest to it, except for a zero with a minus sign. -/
theorem ofText?_of_integer? {cs : List Char} {m : Int} (h : Text.integer? cs = some m) :
    ofText? cs = some (if m = 0 ∧ cs.head? = some '-' then minusZero else ofInt m) := by
  obtain ⟨x, hx, hrounds⟩ := exists_rounds_of_integer? h
  have hminus := negative_iff_of_ofText? hx
  rw [hx, Option.some.injEq]
  obtain ⟨negative, magnitude⟩ := x
  obtain ⟨rfl, hnonpos, hnonneg⟩ := hrounds
  split
  · rename_i hboth
    obtain ⟨rfl, hsign⟩ := hboth
    have hnegative : negative = true := hminus.2 hsign
    rw [hnegative, Int.natAbs_zero, nearest_zero, minusZero]
  · rename_i hneither
    have hsign : negative = decide (m < 0) := by
      cases negative with
      | false => simpa using hnonneg rfl
      | true =>
        have hle := hnonpos rfl
        have hne : m ≠ 0 := fun hm => hneither ⟨hm, hminus.1 rfl⟩
        exact (decide_eq_true (by omega)).symm
    rw [hsign, ofInt]

end Binary64

end Number

/-! ### Operators that compare -/

namespace Operator

/-- The operators that compare a value with their parameters. -/
def comparisons : List Operator :=
  [.eq, .ne, .lt, .gt, .lte, .gte, .between, .notBetween, .isIn, .notIn]

/-- What an operator makes of the orders in which a value stands to its parameters. -/
def judges : Operator → List Ordering → Bool
  | .eq, [order] => order.isEq
  | .ne, [order] => !order.isEq
  | .lt, [order] => order.isLT
  | .gt, [order] => order.isGT
  | .lte, [order] => order.isLE
  | .gte, [order] => order.isGE
  | .between, [low, high] => low.isGE && high.isLE
  | .notBetween, [low, high] => !(low.isGE && high.isLE)
  | .isIn, orders => orders.any Ordering.isEq
  | .notIn, orders => !orders.any Ordering.isEq
  | _, _ => false

/-- What an operator says of an integer and of integers as its parameters. -/
def Compares : Operator → Int → List Int → Prop
  | .eq, n, [m] => n = m
  | .ne, n, [m] => n ≠ m
  | .lt, n, [m] => n < m
  | .gt, n, [m] => m < n
  | .lte, n, [m] => n ≤ m
  | .gte, n, [m] => m ≤ n
  | .between, n, [low, high] => low ≤ n ∧ n ≤ high
  | .notBetween, n, [low, high] => n < low ∨ high < n
  | .isIn, n, ms => n ∈ ms
  | .notIn, n, ms => n ∉ ms
  | _, _, _ => False

theorem any_isEq_compare_iff {n : Int} {ms : List Int} :
    (ms.map (compare n)).any Ordering.isEq = true ↔ n ∈ ms := by
  simp [List.any_map, Ordering.isEq_iff_eq_eq]

/-- Exact orders are judged as the integers are. -/
theorem judges_compare_iff {op : Operator} (hop : op ∈ comparisons) {n : Int} {ms : List Int}
    (harity : op.arity.accepts ms.length = true) :
    op.judges (ms.map (compare n)) = true ↔ op.Compares n ms := by
  have hms := params_of_accepts harity
  cases op with
  | eq | ne | lt | gt | lte | gte =>
    obtain ⟨m, rfl⟩ := hms
    simp [judges, Compares, Ordering.isEq_iff_eq_eq, Ordering.isLT_iff_eq_lt,
      Ordering.isGT_iff_eq_gt, Int.compare_eq_lt, Int.compare_eq_gt, Std.isLE_compare,
      Std.isGE_compare]
  | between | notBetween =>
    obtain ⟨low, high, rfl⟩ := hms
    simp [judges, Compares, Std.isLE_compare, Std.isGE_compare, Int.compare_eq_lt,
      Int.compare_eq_gt]
  | isIn => exact any_isEq_compare_iff
  | notIn =>
    rw [judges, Compares, Bool.not_eq_true', ← Bool.not_eq_true, any_isEq_compare_iff]
  | empty | notEmpty | startsWith | endsWith | contains | notStartsWith | notEndsWith
  | notContains => exact absurd hop (by decide)

end Operator

/-- A parameter that the rule for integers accepts, and the integer that it denotes. -/
structure Accepted (param : String) (m : Int) : Prop where
  passes : ∀ field, Rule.integer field param [] = none
  denotes : Text.integer? (Text.trim param.toList) = some m

theorem accepted_of_signed? {param : String} {m : Int}
    (h : Text.signed? (Text.trim param.toList) = some m) : Accepted param m where
  passes _ := Rule.ofTest_eq_none_iff.2 (Option.isSome_iff_exists.2 ⟨m, h⟩)
  denotes := (Option.filter_eq_some_iff.1 h).1

/-! ### Integers in a table -/

namespace Relational

open Sql (Comparison Expr Record Truth order?)

theorem coerce_of_accepted {param : String} {m : Int} (h : Accepted param m) :
    coerce .integer param = .ok (.integer m) := by
  refine coerce_of_value? ?_
  obtain ⟨k, hk⟩ := Option.isSome_iff_exists.1 (Rule.ofTest_eq_none_iff.1 (h.passes param))
  have hkm : k = m := Option.some.inj ((Option.filter_eq_some_iff.1 hk).1.symm.trans h.denotes)
  simp only [value?, hk, Option.map_some, hkm]

theorem mapM_coerce_of_accepted {bounds : List (String × Int)}
    (h : ∀ bound ∈ bounds, Accepted bound.1 bound.2) :
    (bounds.map Prod.fst).mapM (coerce .integer)
      = .ok ((bounds.map Prod.snd).map Sql.Value.integer) := by
  rw [mapM_eq_ok_iff, List.map_map, List.forall₂_map_left_iff, List.forall₂_map_right_iff,
    List.forall₂_same]
  exact fun bound hmem => coerce_of_accepted (h bound hmem)

section Cells

variable {record : Record} {column : Sql.Column} {n : Int}
  (hcell : record column = some (.integer n))
include hcell

theorem order?_integer (m : Int) :
    order? (record column) (.integer m) = (some n).map fun k => compare k m := by
  rw [hcell]
  rfl

theorem truth_orNull_of_cell {e : Expr} {b : Bool} (h : e.truth record = .ofOption (some b)) :
    (orNull column e).truth record = .ofOption (some b) := by
  rw [orNull, Expr.truth, h, Expr.truth, hcell, Truth.or_ofOption_some]
  simp

theorem truth_isIn_integers (negated : Bool) {ms : List Int} (hne : ms ≠ []) :
    (Expr.isIn column negated (ms.map .integer)).truth record
      = .ofOption (some (negated ^^ (ms.map (compare n)).any Ordering.isEq)) := by
  have horders : List.Forall₂ (fun m bound => order? (record column) bound
      = (some n).map fun k => compare k m) ms (ms.map .integer) := by
    rw [List.forall₂_map_right_iff, List.forall₂_same]
    exact fun m _ => order?_integer hcell m
  rw [Expr.truth_isIn hne horders, List.any_map]
  rfl

end Cells

/-- What a table makes of a comparison is a condition, and it judges the exact orders. -/
theorem exists_condition_judges {record : Record} {field : String} {n : Int}
    (hcell : record ⟨none, field⟩ = some (.integer n)) {op : Operator}
    (hop : op ∈ Operator.comparisons) {bounds : List (String × Int)}
    (hbounds : ∀ bound ∈ bounds, Accepted bound.1 bound.2)
    (harity : op.arity.accepts bounds.length = true) :
    ∃ e, condition field .integer op (bounds.map Prod.fst) = .ok e ∧
      e.truth record
        = .ofOption (some (op.judges ((bounds.map Prod.snd).map (compare n)))) := by
  have hcoerce : ∀ bound ∈ bounds, coerce .integer bound.1 = .ok (.integer bound.2) :=
    fun bound hmem => coerce_of_accepted (hbounds bound hmem)
  have hshape := Operator.params_of_accepts harity
  cases op with
  | eq | lt | gt | lte | gte =>
    obtain ⟨⟨param, m⟩, rfl⟩ := hshape
    refine ⟨_, comparing_eq_ok (hcoerce _ List.mem_cons_self) _, ?_⟩
    exact Expr.truth_compare (order?_integer hcell m) _
  | ne =>
    obtain ⟨⟨param, m⟩, rfl⟩ := hshape
    have hparam := hcoerce _ List.mem_cons_self
    refine ⟨_, Except.map_eq_ok_iff.2 ⟨_, comparing_eq_ok hparam _, rfl⟩, ?_⟩
    refine truth_orNull_of_cell hcell ?_
    have hnot : ∀ order : Ordering, Comparison.notEqual.accepts order = !order.isEq := by decide
    rw [Expr.truth_compare (order?_integer hcell m), Option.map_some, hnot]
    rfl
  | between =>
    obtain ⟨⟨low, least⟩, ⟨high, greatest⟩, rfl⟩ := hshape
    have hlow := hcoerce _ List.mem_cons_self
    have hhigh := hcoerce _ (List.mem_cons_of_mem _ List.mem_cons_self)
    refine ⟨_, bounds_eq_ok hlow hhigh false, ?_⟩
    rw [Expr.truth_between (order?_integer hcell least) (order?_integer hcell greatest)]
    simp only [Bool.false_xor]
    rfl
  | notBetween =>
    obtain ⟨⟨low, least⟩, ⟨high, greatest⟩, rfl⟩ := hshape
    have hlow := hcoerce _ List.mem_cons_self
    have hhigh := hcoerce _ (List.mem_cons_of_mem _ List.mem_cons_self)
    refine ⟨_, Except.map_eq_ok_iff.2 ⟨_, bounds_eq_ok hlow hhigh true, rfl⟩, ?_⟩
    refine truth_orNull_of_cell hcell ?_
    rw [Expr.truth_between (order?_integer hcell least) (order?_integer hcell greatest)]
    simp only [Bool.true_xor]
    rfl
  | isIn | notIn =>
    obtain ⟨first, rest, rfl⟩ := hshape
    refine ⟨_, listed_eq_ok (mapM_coerce_of_accepted hbounds) _, ?_⟩
    rw [truth_isIn_integers hcell _ (by simp)]
    simp only [Bool.false_xor, Bool.true_xor]
    rfl
  | empty | notEmpty | startsWith | endsWith | contains | notStartsWith | notEndsWith
  | notContains => exact absurd hop (by decide)

/-- **A table compares integers exactly.** -/
theorem truth_iff_compares {record : Record} {field : String} {n : Int}
    (hcell : record ⟨none, field⟩ = some (.integer n)) {op : Operator}
    (hop : op ∈ Operator.comparisons) {bounds : List (String × Int)}
    (hbounds : ∀ bound ∈ bounds, Accepted bound.1 bound.2)
    (harity : op.arity.accepts bounds.length = true) :
    ∃ e, condition field .integer op (bounds.map Prod.fst) = .ok e ∧
      (e.truth record = .holds ↔ op.Compares n (bounds.map Prod.snd)) := by
  obtain ⟨e, he, htruth⟩ := exists_condition_judges hcell hop hbounds harity
  refine ⟨e, he, ?_⟩
  rw [htruth, Truth.ofOption_eq_holds_iff, Option.some.injEq]
  exact Operator.judges_compare_iff hop (by rwa [List.length_map])

end Relational

namespace Memory

/-! ### One parameter -/

/-- The ways in which an integer and a parameter that denotes an integer compare wrongly. -/
inductive Misjudges (n : Int) (param : String) (m : Int) : Prop where
  /-- Two integers become one number. -/
  | rounded (trimmed : Text.trim param.toList = param.toList) (distinct : n ≠ m)
      (same : Binary64.ofInt n = Binary64.ofInt m)
  /-- Zero stands above a zero with a minus sign. -/
  | minusZero (trimmed : Text.trim param.toList = param.toList) (zero : n = 0) (denoted : m = 0)
      (sign : param.toList.head? = some '-')
  /-- Between white space a number is no number, and texts are compared. -/
  | untrimmed (blanks : Text.trim param.toList ≠ param.toList)
      (texts : compare (String.ofList (Text.decimalInt n)) param ≠ compare n m)

/-- **An integer compares with a parameter as with the integer that it denotes, unless it is
    misjudged.** -/
theorem compareParam_eq_iff {n m : Int} {param : String}
    (h : Text.integer? (Text.trim param.toList) = some m) :
    compareParam (.number (.integer n)) param = compare n m ↔ ¬ Misjudges n param m := by
  by_cases htrim : Text.trim param.toList = param.toList
  · rw [htrim] at h
    have hcompare : compareParam (.number (.integer n)) param = compare (Binary64.ofInt n).place
        (if m = 0 ∧ param.toList.head? = some '-' then Binary64.minusZero
          else Binary64.ofInt m).place := by
      simp only [compareParam, Binary64.ofText?_of_integer? h]
      rfl
    rw [hcompare]
    split
    · rename_i hminus
      obtain ⟨rfl, hsign⟩ := hminus
      rw [Binary64.compare_place_minusZero_iff]
      constructor
      · rintro hne (⟨-, -, hsame⟩ | ⟨-, hzero, -, -⟩ | ⟨hblanks, -⟩)
        · exact Binary64.ofInt_ne_of_small (by decide) hne.symm hsame.symm
        · exact hne hzero
        · exact hblanks htrim
      · intro hjudged hzero
        exact hjudged (.minusZero htrim hzero rfl hsign)
    · rename_i hplain
      rw [Binary64.compare_place_ofInt_iff]
      constructor
      · rintro hdistinct (⟨-, hne, hsame⟩ | ⟨-, -, hzero, hsign⟩ | ⟨hblanks, -⟩)
        · exact hdistinct hne hsame
        · exact hplain ⟨hzero, hsign⟩
        · exact hblanks htrim
      · intro hjudged hne hsame
        exact hjudged (.rounded htrim hne hsame)
  · have hunread : Binary64.ofText? param.toList = none := by
      rw [Option.eq_none_iff_forall_ne_some]
      intro x hx
      exact htrim (Number.trim_eq_of_ofText? hx)
    have hcompare : compareParam (.number (.integer n)) param
        = compare (String.ofList (Text.decimalInt n)) param := by
      simp only [compareParam, hunread]
      rfl
    rw [hcompare]
    constructor
    · rintro hequal (⟨htrimmed, -, -⟩ | ⟨htrimmed, -, -, -⟩ | ⟨-, hdiffer⟩)
      · exact htrim htrimmed
      · exact htrim htrimmed
      · exact hdiffer hequal
    · intro hjudged
      by_contra hdiffer
      exact hjudged (.untrimmed htrim hdiffer)

/-- An integer of at most 53 bits is misjudged as zero only, or by white space. -/
theorem not_misjudges_of_small {n m : Int} {param : String}
    (htrim : Text.trim param.toList = param.toList) (hn : n.natAbs < 2 * Binary64.binade)
    (hsign : n = 0 → param.toList.head? ≠ some '-') : ¬ Misjudges n param m := by
  rintro (⟨-, hne, hsame⟩ | ⟨-, hzero, -, hminus⟩ | ⟨hblanks, -⟩)
  · exact Binary64.ofInt_ne_of_small hn hne hsame
  · exact hsign hzero hminus
  · exact hblanks htrim

/-! ### Filters that compare -/

/-- A filter that compares judges the orders of the value and the parameters. -/
theorem exists_predicate_judges {op : Operator} (hop : op ∈ Operator.comparisons)
    {params : List String} (harity : op.arity.accepts params.length = true) :
    ∃ holds, predicate op params = .ok holds ∧
      ∀ value, holds (some value) = op.judges (params.map (compareParam value)) := by
  have hshape := Operator.params_of_accepts harity
  cases op with
  | eq | ne | lt | gt | lte | gte =>
    obtain ⟨param, rfl⟩ := hshape
    exact ⟨_, rfl, fun _ => rfl⟩
  | between | notBetween =>
    obtain ⟨low, high, rfl⟩ := hshape
    exact ⟨_, rfl, fun _ => rfl⟩
  | isIn | notIn =>
    obtain ⟨first, rest, rfl⟩ := hshape
    refine ⟨_, rfl, ?_⟩
    intro value
    rw [Operator.judges, List.any_map]
    rfl
  | empty | notEmpty | startsWith | endsWith | contains | notStartsWith | notEndsWith
  | notContains => exact absurd hop (by decide)

/-- A source in memory takes a filter and keeps an entry in view exactly when something holds. -/
def KeepsWhen (memory : Memory ι) (filter : Command) (entry : Entry ι) (p : Prop) : Prop :=
  (perform filter memory).result = .ok none ∧ (entry ∈ (perform filter memory).state.view ↔ p)

theorem keepsWhen_filter_iff {op : Operator} {params : List String} {holds : Predicate}
    (h : predicate op params = .ok holds) {memory : Memory ι} {entry : Entry ι}
    (hentry : entry ∈ memory.view) (field : String) (kind : ValueKind) (p : Prop) :
    memory.KeepsWhen (.filter field kind op params) entry p ↔
      (holds (valueAt entry.value field) = true ↔ p) := by
  simp [KeepsWhen, perform_filter_ok h, retain, hentry]

section Filters

variable {memory : Memory ι} {entry : Entry ι} (hentry : entry ∈ memory.view) {field : String}
  {n : Int} (hvalue : valueAt entry.value field = some (.number (.integer n)))
include hentry hvalue

theorem keepsWhen_comparison_iff {op : Operator} (hop : op ∈ Operator.comparisons)
    {params : List String} (harity : op.arity.accepts params.length = true) (kind : ValueKind)
    (p : Prop) :
    memory.KeepsWhen (.filter field kind op params) entry p ↔
      (op.judges (params.map (compareParam (.number (.integer n)))) = true ↔ p) := by
  obtain ⟨holds, hholds, hjudges⟩ := exists_predicate_judges hop harity
  rw [keepsWhen_filter_iff hholds hentry, hvalue, hjudges]

/-- Filters with some parameters compare exactly when no one of the parameters is misjudged:
    otherwise *less than* or *equal* fails with it. -/
theorem filters_exact_iff (kind : ValueKind) {bounds : List (String × Int)}
    (hbounds : ∀ bound ∈ bounds, Accepted bound.1 bound.2) :
    (∀ op ∈ Operator.comparisons, ∀ chosen ⊆ bounds, op.arity.accepts chosen.length = true →
        memory.KeepsWhen (.filter field kind op (chosen.map Prod.fst)) entry
          (op.Compares n (chosen.map Prod.snd))) ↔
      ∀ bound ∈ bounds, ¬ Misjudges n bound.1 bound.2 := by
  constructor
  · intro hexact bound hmem
    rw [← compareParam_eq_iff (hbounds bound hmem).denotes]
    have hone : ∀ op ∈ Operator.comparisons, op.arity.accepts [bound].length = true →
        (op.judges [compareParam (.number (.integer n)) bound.1] = true ↔
          op.Compares n [bound.2]) := by
      intro op hop harity
      have hkeeps : memory.KeepsWhen (.filter field kind op [bound.1]) entry
          (op.Compares n [bound.2]) := hexact op hop [bound] (by simpa using hmem) harity
      exact (keepsWhen_comparison_iff hentry hvalue hop harity kind _).1 hkeeps
    have hlt : (compareParam (.number (.integer n)) bound.1).isLT = true ↔ n < bound.2 :=
      hone .lt (by decide) rfl
    have heq : (compareParam (.number (.integer n)) bound.1).isEq = true ↔ n = bound.2 :=
      hone .eq (by decide) rfl
    rw [Ordering.isLT_iff_eq_lt, ← Int.compare_eq_lt] at hlt
    rw [Ordering.isEq_iff_eq_eq, ← Int.compare_eq_eq] at heq
    generalize compareParam (.number (.integer n)) bound.1 = found at hlt heq ⊢
    generalize compare n bound.2 = exact at hlt heq ⊢
    revert hlt heq
    cases found <;> cases exact <;> decide
  · intro hjudged op hop chosen hchosen harity
    rw [keepsWhen_comparison_iff hentry hvalue hop (by rwa [List.length_map])]
    have horders : (chosen.map Prod.fst).map (compareParam (.number (.integer n)))
        = (chosen.map Prod.snd).map (compare n) := by
      rw [List.map_map, List.map_map]
      refine List.map_congr_left ?_
      intro bound hmem
      have hbound := hchosen hmem
      exact (compareParam_eq_iff (hbounds bound hbound).denotes).2 (hjudged bound hbound)
    rw [horders]
    exact Operator.judges_compare_iff hop (by rwa [List.length_map])

end Filters

/-! ### Sorting by integers -/

/-- Sorted by a field of integers, the view ascends unless two integers that one number is made of
    stood in descending order, or the other sort keys put them so. -/
theorem sortedView_ascends_iff {memory : Memory ι} {field : String}
    {rest : List (String × Direction)} (hkeys : memory.sortKeys = (field, .asc) :: rest)
    {size : Entry ι → Int}
    (hsize : ∀ entry ∈ memory.view,
      valueAt entry.value field = some (.number (.integer (size entry)))) :
    memory.sortedView.Pairwise (fun x y => size x ≤ size y) ↔
      ∀ x ∈ memory.view, ∀ y ∈ memory.view, size y < size x →
        Binary64.ofInt (size x) = Binary64.ofInt (size y) →
        ¬ (Precedes rest x.value y.value ∨
          AgreeOn rest x.value y.value ∧ [x, y].Sublist memory.view) := by
  have hmem : ∀ {x}, x ∈ memory.sortedView ↔ x ∈ memory.view :=
    memory.stablySorted_sortedView.perm.mem_iff
  have hpair : ∀ x ∈ memory.view, ∀ y ∈ memory.view, size y < size x →
      ([x, y].Sublist memory.sortedView ↔
        Binary64.ofInt (size x) = Binary64.ofInt (size y) ∧
          (Precedes rest x.value y.value ∨
            AgreeOn rest x.value y.value ∧ [x, y].Sublist memory.view)) := by
    intro x hx y hy hless
    have hplace := Binary64.place_ofInt_mono (Int.le_of_lt hless)
    have hvalues : compareValues (valueAt x.value field) (valueAt y.value field)
        = compare (Binary64.ofInt (size x)).place (Binary64.ofInt (size y)).place := by
      rw [hsize x hx, hsize y hy]
      rfl
    have hnotless : compareValues (valueAt x.value field) (valueAt y.value field) ≠ .lt := by
      rw [hvalues, Ne, Int.compare_eq_lt]
      omega
    have hsame : compareValues (valueAt x.value field) (valueAt y.value field) = .eq ↔
        Binary64.ofInt (size x) = Binary64.ofInt (size y) := by
      rw [hvalues, Int.compare_eq_eq]
      exact ⟨Binary64.place_inj, congrArg Binary64.place⟩
    rw [pair_sublist_sortedView_iff hx hy, hkeys, precedes_cons, agreeOn_cons, hsame,
      Direction.orient, or_iff_right hnotless, and_assoc, ← and_or_left]
  rw [List.pairwise_iff_forall_sublist]
  constructor
  · intro hascends x hx y hy hless hsame hplaced
    have hle := hascends ((hpair x hx y hy hless).2 ⟨hsame, hplaced⟩)
    omega
  · intro hapart x y hsub
    have hx := hmem.1 (hsub.subset List.mem_cons_self)
    have hy := hmem.1 (hsub.subset (List.mem_cons_of_mem x List.mem_cons_self))
    by_contra hgreater
    have hless : size y < size x := by omega
    obtain ⟨hsame, hplaced⟩ := (hpair x hx y hy hless).1 hsub
    exact hapart x hx y hy hless hsame hplaced

/-- **Integers are compared exactly in a table, and in memory unless they are misjudged.**  Filters
    in memory that take some parameters keep what they should exactly when none of these is
    misjudged for the value, and a view sorted by integers ascends exactly when no two of them that
    become one number are left or put in descending order. -/
theorem integers_exact_iff (field : String) :
    (∀ (record : Sql.Record) (n : Int), record ⟨none, field⟩ = some (.integer n) →
      ∀ bounds : List (String × Int), (∀ bound ∈ bounds, Accepted bound.1 bound.2) →
      ∀ op ∈ Operator.comparisons, op.arity.accepts bounds.length = true →
        ∃ e, Relational.condition field .integer op (bounds.map Prod.fst) = .ok e ∧
          (e.truth record = .holds ↔ op.Compares n (bounds.map Prod.snd))) ∧
    ∀ memory : Memory ι,
      (∀ entry ∈ memory.view, ∀ n, valueAt entry.value field = some (.number (.integer n)) →
        ∀ (kind : ValueKind) (bounds : List (String × Int)),
        (∀ bound ∈ bounds, Accepted bound.1 bound.2) →
        ((∀ op ∈ Operator.comparisons, ∀ chosen ⊆ bounds,
            op.arity.accepts chosen.length = true →
            memory.KeepsWhen (.filter field kind op (chosen.map Prod.fst)) entry
              (op.Compares n (chosen.map Prod.snd))) ↔
          ∀ bound ∈ bounds, ¬ Misjudges n bound.1 bound.2)) ∧
      ∀ (rest : List (String × Direction)) (size : Entry ι → Int),
        memory.sortKeys = (field, .asc) :: rest →
        (∀ entry ∈ memory.view,
          valueAt entry.value field = some (.number (.integer (size entry)))) →
        (memory.sortedView.Pairwise (fun x y => size x ≤ size y) ↔
          ∀ x ∈ memory.view, ∀ y ∈ memory.view, size y < size x →
            Binary64.ofInt (size x) = Binary64.ofInt (size y) →
            ¬ (Precedes rest x.value y.value ∨
              AgreeOn rest x.value y.value ∧ [x, y].Sublist memory.view)) := by
  refine ⟨?_, fun memory => ⟨?_, ?_⟩⟩
  · intro record n hcell bounds hbounds op hop harity
    exact Relational.truth_iff_compares hcell hop hbounds harity
  · intro entry hentry n hvalue kind bounds hbounds
    exact filters_exact_iff hentry hvalue kind hbounds
  · intro rest size hkeys hsize
    exact sortedView_ascends_iff hkeys hsize

/-- An entry with an integer under `id`. -/
def entryOf (position : Nat) (n : Int) : Entry Unit :=
  ⟨position, (), .object [("id", .number (.integer n))]⟩

/-- From 2^53 on every other integer has a number of its own: 2^53 + 2 is told apart from
    2^53 + 1. -/
theorem neighbours_told_apart :
    let greater := entryOf 0 9007199254740994
    let lesser := entryOf 1 9007199254740993
    let memory : Memory Unit := ⟨[greater, lesser], [greater, lesser], [("id", .asc)]⟩
    let size (entry : Entry Unit) : Int :=
      if entry.position = 0 then 9007199254740994 else 9007199254740993
    let record : Sql.Record := fun _ => some (.integer 9007199254740994)
    (∃ e, Relational.condition "id" .integer .gt ["9007199254740993"] = .ok e ∧
      e.truth record = .holds) ∧
    memory.Keeps (.filter "id" .integer .gt ["9007199254740993"]) greater ∧
    memory.sortedView.Pairwise fun x y => size x ≤ size y := by
  intro greater lesser memory size record
  obtain ⟨htable, hmemory⟩ := integers_exact_iff (ι := Unit) "id"
  obtain ⟨hfilters, hsort⟩ := hmemory memory
  let bounds : List (String × Int) := [("9007199254740993", 9007199254740993)]
  have hbounds : ∀ bound ∈ bounds, Accepted bound.1 bound.2 := by
    intro bound hmem
    rw [List.mem_singleton.1 hmem]
    exact accepted_of_signed? (by decide +kernel)
  have hdistinct : Binary64.ofInt 9007199254740994 ≠ Binary64.ofInt 9007199254740993 := by
    decide +kernel
  have hjudged : ∀ bound ∈ bounds, ¬ Misjudges 9007199254740994 bound.1 bound.2 := by
    intro bound hmem
    rw [List.mem_singleton.1 hmem]
    rintro (⟨-, -, hsame⟩ | ⟨-, hzero, -, -⟩ | ⟨hblanks, -⟩)
    · exact hdistinct hsame
    · cases hzero
    · exact hblanks rfl
  have hgreater : (9007199254740993 : Int) < 9007199254740994 := by decide
  obtain ⟨e, he, htruth⟩ := htable record _ rfl bounds hbounds .gt (by decide) rfl
  obtain ⟨hresult, hview⟩ := (hfilters greater List.mem_cons_self _ rfl .integer bounds hbounds).2
    hjudged .gt (by decide) bounds (List.Subset.refl _) rfl
  refine ⟨⟨e, he, htruth.2 hgreater⟩, ⟨hresult, hview.2 hgreater⟩, ?_⟩
  have hsize : ∀ entry ∈ memory.view,
      valueAt entry.value "id" = some (.number (.integer (size entry))) := by
    intro entry hmem
    rcases List.mem_pair.1 hmem with rfl | rfl <;> rfl
  refine (hsort [] size rfl hsize).2 ?_
  intro x hx y hy hless hsame
  rcases List.mem_pair.1 hx with rfl | rfl <;> rcases List.mem_pair.1 hy with rfl | rfl
  · exact absurd hless (Int.lt_irrefl _)
  · exact absurd hsame hdistinct
  · exact absurd hless (by decide)
  · exact absurd hless (Int.lt_irrefl _)

/-- Next to 2^53 neighbours are confused, a zero with a minus sign is not zero, and an integer
    after a blank is a text. -/
theorem neighbours_confused :
    let greater := entryOf 0 9007199254740993
    let lesser := entryOf 1 9007199254740992
    let zero := entryOf 2 0
    let five := entryOf 3 5
    let memory := ofEntries [greater, lesser, zero, five]
    (Accepted "9007199254740992" 9007199254740992 ∧ Accepted "-0" 0 ∧ Accepted " 5" 5) ∧
    memory.Keeps (.filter "id" .integer .eq ["9007199254740992"]) greater ∧
    memory.Drops (.filter "id" .integer .gt ["9007199254740992"]) greater ∧
    memory.Drops (.filter "id" .integer .eq ["-0"]) zero ∧
    memory.Drops (.filter "id" .integer .eq [" 5"]) five ∧
    (perform (.sort "id" .asc) memory).state.sortedView.map Entry.position = [2, 3, 0, 1] := by
  intro greater lesser zero five memory
  have hgreater : greater ∈ memory.view := by simp [memory, ofEntries]
  have hzero : zero ∈ memory.view := by simp [memory, ofEntries]
  have hfive : five ∈ memory.view := by simp [memory, ofEntries]
  refine ⟨⟨accepted_of_signed? ?_, accepted_of_signed? ?_, accepted_of_signed? ?_⟩,
    (keeps_filter_iff rfl hgreater _ _).2 ?_, (drops_filter_iff rfl hgreater _ _).2 ?_,
    (drops_filter_iff rfl hzero _ _).2 ?_, (drops_filter_iff rfl hfive _ _).2 ?_, ?_⟩
  all_goals decide +kernel

end Memory

end Listing
