/-
  Listing/Proofs/Magnitudes.lean
  ==============================
  **Rounding keeps the order of numbers.**

  The number nearest to a quotient grows with the quotient (`nearest_mono`).  Between
  quotients that lose equally many bits this is the order of integer division; when
  more bits are lost, the patterns of the binades lie in order by themselves.  Whole
  numbers of at most 53 bits lose none and stay apart from all greater ones
  (`nearest_lt_of_lt`).

  A written integer is read as the number nearest to it (`exists_rounds_of_integer?`),
  so the rules of a page parameter accept exactly the integers whose rounded values
  keep the rounded bounds (`check_number_iff`).
-/
import Listing.Proofs.Verdicts
import Mathlib.Algebra.Group.Nat.Defs
import Mathlib.Data.List.TakeWhile
import Mathlib.Data.Nat.Log

namespace Listing

namespace Number

open Binary64 (binade infinite)

/-! ### Division to the nearest integer -/

theorem div_le_roundDiv (n d : Nat) : n / d ≤ roundDiv n d := by
  unfold roundDiv
  simp only
  split
  · exact Nat.le_refl _
  · split
    · exact Nat.le_succ _
    · exact Nat.le_add_right _ _

theorem roundDiv_le_div_succ (n d : Nat) : roundDiv n d ≤ n / d + 1 := by
  unfold roundDiv
  simp only
  split
  · exact Nat.le_succ _
  · split
    · exact Nat.le_refl _
    · omega

theorem roundDiv_mono {n m : Nat} (h : n ≤ m) (d : Nat) : roundDiv n d ≤ roundDiv m d := by
  have hquotient : n / d ≤ m / d := Nat.div_le_div_right h
  rcases Nat.lt_or_eq_of_le hquotient with hlt | heq
  · calc
      roundDiv n d ≤ n / d + 1 := roundDiv_le_div_succ n d
      _ ≤ m / d := hlt
      _ ≤ roundDiv m d := div_le_roundDiv m d
  · have hn := Nat.div_add_mod n d
    have hm := Nat.div_add_mod m d
    have hrest : n % d ≤ m % d := by
      rw [heq] at hn
      omega
    -- the same quotient is left as it is or rounded up, by its rest
    unfold roundDiv
    simp only [heq]
    by_cases hlow : 2 * (m % d) < d
    · rw [if_pos hlow, if_pos (by omega)]
    · by_cases hhigh : d < 2 * (m % d)
      · rw [if_neg hlow, if_pos hhigh]
        split
        · omega
        · split
          · omega
          · omega
      · rw [if_neg hlow, if_neg hhigh]
        split
        · omega
        · rw [if_neg (by omega)]

theorem roundDiv_of_dvd {n d : Nat} (hd : 0 < d) (h : d ∣ n) : roundDiv n d = n / d := by
  have hrest : n % d = 0 := Nat.mod_eq_zero_of_dvd h
  simp only [roundDiv, hrest, Nat.mul_zero, hd, if_true]

/-! ### The nearest number -/

/-- What is left of a quotient without its lowest bits. -/
theorem div_shiftLeft_lt {u d k : Nat} (h : Nat.log2 (u / d) ≤ k + 52) :
    u / (d <<< k) < 2 * binade := by
  have hlog : u / d < 2 ^ (k + 53) := by
    rcases Nat.eq_zero_or_pos (u / d) with hzero | hpos
    · rw [hzero]
      exact Nat.two_pow_pos _
    · exact (Nat.log2_lt (by omega)).1 (by omega)
  rw [Nat.shiftLeft_eq, ← Nat.div_div_eq_div_mul, Nat.div_lt_iff_lt_mul (Nat.two_pow_pos k)]
  have hpow : 2 ^ (k + 53) = 2 * binade * 2 ^ k := by
    rw [Nat.pow_add, Nat.mul_comm]
    rfl
  omega

/-- The significand of a number has 53 bits at most; with all of them set it may
    still be rounded up to the next power of two. -/
theorem roundDiv_shiftLeft_le {u d k : Nat} (h : Nat.log2 (u / d) ≤ k + 52) :
    roundDiv u (d <<< k) ≤ 2 * binade := by
  have hquotient := div_shiftLeft_lt h
  have := roundDiv_le_div_succ u (d <<< k)
  omega

/-- When bits are dropped, the significand has all its 53 bits. -/
theorem le_roundDiv_shiftLeft {u d k : Nat} (h : Nat.log2 (u / d) = k + 52) :
    binade ≤ roundDiv u (d <<< k) := by
  have hne : u / d ≠ 0 := by
    intro hzero
    rw [hzero] at h
    simp at h
  have hquotient : binade ≤ u / (d <<< k) := by
    rw [Nat.shiftLeft_eq, ← Nat.div_div_eq_div_mul, Nat.le_div_iff_mul_le (Nat.two_pow_pos k)]
    have hlog : 2 ^ (k + 52) ≤ u / d := (Nat.le_log2 hne).1 (by omega)
    have hpow : 2 ^ (k + 52) = binade * 2 ^ k := by
      rw [Nat.pow_add, Nat.mul_comm]
      rfl
    omega
  exact hquotient.trans (div_le_roundDiv u (d <<< k))

/-- **Rounding keeps the order.** -/
theorem nearest_mono {n m : Nat} (h : n ≤ m) (d : Nat) : nearest n d ≤ nearest m d := by
  have hunits : n <<< 1074 ≤ m <<< 1074 := by
    rw [Nat.shiftLeft_eq, Nat.shiftLeft_eq]
    exact Nat.mul_le_mul_right _ h
  unfold nearest
  simp only
  generalize n <<< 1074 = u at hunits ⊢
  generalize m <<< 1074 = v at hunits ⊢
  have hlog : Nat.log2 (u / d) ≤ Nat.log2 (v / d) := by
    rw [Nat.log2_eq_log_two, Nat.log2_eq_log_two]
    exact Nat.log_mono_right (Nat.div_le_div_right hunits)
  have hdropped : Nat.log2 (u / d) - 52 ≤ Nat.log2 (v / d) - 52 := by omega
  refine Nat.le_min.2 ⟨Nat.min_le_left _ _, Nat.le_trans (Nat.min_le_right _ _) ?_⟩
  rcases Nat.lt_or_eq_of_le hdropped with hlt | heq
  · -- the binade of the greater number starts where that of the lesser ends
    have hless := roundDiv_shiftLeft_le (u := u) (d := d) (k := Nat.log2 (u / d) - 52) (by omega)
    have hmore := le_roundDiv_shiftLeft (u := v) (d := d) (k := Nat.log2 (v / d) - 52) (by omega)
    have hbinades : (Nat.log2 (u / d) - 52) * binade + binade
        ≤ (Nat.log2 (v / d) - 52) * binade := by
      rw [← Nat.succ_mul]
      exact Nat.mul_le_mul_right _ hlt
    omega
  · rw [heq]
    exact Nat.add_le_add_left (roundDiv_mono hunits _) _

theorem log2_shiftLeft_le {n : Nat} (h : n < 2 * binade) (s : Nat) :
    Nat.log2 (n <<< s) ≤ s + 52 := by
  rw [Nat.shiftLeft_eq]
  rcases Nat.eq_zero_or_pos (n * 2 ^ s) with hzero | hpos
  · rw [hzero, Nat.log2_zero]
    exact Nat.zero_le _
  · refine Nat.le_of_lt_succ ((Nat.log2_lt (Nat.ne_of_gt hpos)).2 ?_)
    have hpow : 2 ^ (s + 53) = 2 * binade * 2 ^ s := by
      rw [Nat.pow_add, Nat.mul_comm]
      rfl
    exact Nat.lt_of_lt_of_eq (Nat.mul_lt_mul_of_pos_right h (Nat.two_pow_pos s)) hpow.symm

/-- A pattern that drops only zeros lies below the patterns of all numbers that exceed its own by
    the last bit kept. -/
theorem pattern_lt {u v k l : Nat} (hk : k = Nat.log2 u - 52) (hl : l = Nat.log2 v - 52)
    (hexact : 2 ^ k ∣ u) (h : u + 2 ^ k ≤ v) :
    k * binade + roundDiv u (1 <<< k) < l * binade + roundDiv v (1 <<< l) := by
  have hlog : Nat.log2 u ≤ Nat.log2 v := by
    rw [Nat.log2_eq_log_two, Nat.log2_eq_log_two]
    exact Nat.log_mono_right (by omega)
  have hrounded : roundDiv u (1 <<< k) = u / 1 <<< k := by
    rw [Nat.one_shiftLeft]
    exact roundDiv_of_dvd (Nat.two_pow_pos k) hexact
  rw [hrounded]
  rcases Nat.lt_or_eq_of_le (show k ≤ l by omega) with hlt | rfl
  · have hless : u / 1 <<< k < 2 * binade :=
      div_shiftLeft_lt (d := 1) (by rw [Nat.div_one]; omega)
    have hmore : binade ≤ roundDiv v (1 <<< l) :=
      le_roundDiv_shiftLeft (d := 1) (by rw [Nat.div_one]; omega)
    have hbinades : k * binade + binade ≤ l * binade := by
      rw [← Nat.succ_mul]
      exact Nat.mul_le_mul_right _ hlt
    omega
  · rw [Nat.one_shiftLeft]
    have hquotient : u / 2 ^ k + 1 ≤ v / 2 ^ k := by
      rw [← Nat.add_div_right u (Nat.two_pow_pos k)]
      exact Nat.div_le_div_right h
    have hleast := div_le_roundDiv v (2 ^ k)
    omega

/-- Whole numbers with at most 53 bits are kept apart from all greater ones. -/
theorem nearest_lt_of_lt {n m : Nat} (hn : n < 2 * binade) (h : n < m) :
    nearest n 1 < nearest m 1 := by
  unfold nearest
  -- the number of units is a variable, so that the power is never written out
  obtain ⟨s, hs⟩ : ∃ s, s = 1074 := ⟨1074, rfl⟩
  rw [← hs]
  have hunits : n <<< s + 2 ^ s ≤ m <<< s := by
    rw [Nat.shiftLeft_eq, Nat.shiftLeft_eq, ← Nat.succ_mul]
    exact Nat.mul_le_mul_right _ h
  have hlast := log2_shiftLeft_le hn s
  have hwhole : 2 ^ s ∣ n <<< s := ⟨n, by rw [Nat.shiftLeft_eq, Nat.mul_comm]⟩
  simp only [Nat.div_one]
  generalize n <<< s = u at hunits hlast hwhole ⊢
  generalize m <<< s = v at hunits ⊢
  obtain ⟨k, hk⟩ : ∃ k, k = Nat.log2 u - 52 := ⟨_, rfl⟩
  rw [← hk]
  have hexact : 2 ^ k ∣ u := Nat.dvd_trans (Nat.pow_dvd_pow 2 (by omega)) hwhole
  have hstep : 2 ^ k ≤ 2 ^ s := Nat.pow_le_pow_right (by decide) (by omega)
  have hless := pattern_lt hk rfl hexact (by omega : u + 2 ^ k ≤ v)
  have hfinite : k * binade + roundDiv u (1 <<< k) < infinite := by
    have hsignificand : roundDiv u (1 <<< k) ≤ 2 * binade :=
      roundDiv_shiftLeft_le (d := 1) (by rw [Nat.div_one]; omega)
    have hbinades : k * binade ≤ 1074 * binade := Nat.mul_le_mul_right _ (by omega)
    simp only [infinite, binade] at hsignificand hbinades ⊢
    omega
  rw [Nat.min_eq_right (Nat.le_of_lt hfinite)]
  exact Nat.lt_min.2 ⟨hfinite, hless⟩

namespace Binary64

theorem below_ofNat_iff {n m : Nat} :
    (ofNat n).below (ofNat m) = true ↔ nearest n 1 < nearest m 1 := by
  constructor
  · intro h
    rw [← Nat.not_le]
    intro hle
    have hplaces : ¬ (ofNat n).signedMagnitude < (ofNat m).signedMagnitude := by
      simp only [ofNat, signedMagnitude, Bool.false_eq_true, if_false]
      omega
    simp only [below, hplaces, decide_false, Bool.and_false, Bool.false_eq_true] at h
  · intro h
    have hnumber : ∀ l, (ofNat l).isNaN = false := by
      intro l
      exact decide_eq_false (Nat.not_lt.2 (Nat.min_le_left _ _))
    have hplaces : (ofNat n).signedMagnitude < (ofNat m).signedMagnitude := by
      simp only [ofNat, signedMagnitude, Bool.false_eq_true, if_false]
      omega
    simp only [below, hnumber, hplaces, decide_true, Bool.not_false, Bool.and_self]

/-- A whole number that is not above another is not above it after rounding. -/
theorem below_ofNat {n m : Nat} (h : n ≤ m) : (ofNat m).below (ofNat n) = false := by
  rw [← Bool.not_eq_true, below_ofNat_iff, Nat.not_lt]
  exact nearest_mono h 1

/-! ### Decimals -/

/-- A number with more than 310 digits is beyond the finite ones. -/
theorem nearest_eq_infinite {n : Nat} (h : 310 < (Nat.toDigits 10 n).length) :
    nearest n 1 = infinite := by
  -- the exponent is a variable, so that the power is never written out
  obtain ⟨k, hk⟩ : ∃ k, k = 310 := ⟨310, rfl⟩
  have hinfinite : nearest (Nat.pow 10 k) 1 = infinite := by
    rw [hk]
    decide +kernel
  have hlarge : Nat.pow 10 k ≤ n := by
    rw [← Nat.not_lt]
    intro hless
    have hdigits := (Nat.length_toDigits_le_iff (b := 10) (by decide) (by omega)).2 hless
    omega
  have hleast := nearest_mono hlarge 1
  have hgreatest : nearest n 1 ≤ infinite := Nat.min_le_left _ _
  omega

/-- The bounds on the size of a decimal cut off nothing but infinity. -/
theorem decimalMagnitude_zero (n : Nat) : decimalMagnitude n 0 = nearest n 1 := by
  unfold decimalMagnitude
  simp only [Int.add_zero, Int.toNat_zero, Nat.pow_eq, Nat.pow_zero, Nat.mul_one]
  split
  · rename_i hzero
    rw [hzero]
    decide +kernel
  · split
    · rename_i hsize
      exact (nearest_eq_infinite (by omega)).symm
    · rw [if_neg (by omega), if_pos (Int.le_refl 0)]

/-! ### Digits -/

theorem unsignedDecimal?_digits {cs : List Char} (hne : cs ≠ [])
    (hdigits : ∀ c ∈ cs, c.isDigit = true) :
    unsignedDecimal? cs = some (nearest (Nat.ofDigitChars 10 cs 0) 1) := by
  have hspan : spanDigits cs = (cs, []) := by
    rw [spanDigits, List.takeWhile_eq_self_iff.2 hdigits, List.dropWhile_eq_nil_iff.2 hdigits]
  simp only [unsignedDecimal?, hspan, hne, false_and, if_false, exponent?, Option.map_some,
    List.append_nil, List.length_nil]
  exact congrArg some (decimalMagnitude_zero _)

/-- Words start with letters, digits do not. -/
theorem word?_digits {cs : List Char} (hne : cs ≠ []) (hdigits : ∀ c ∈ cs, c.isDigit = true) :
    word? cs = none := by
  obtain ⟨c, rest, rfl⟩ := List.exists_cons_of_ne_nil hne
  have hc := hdigits c List.mem_cons_self
  have hlower : c.toLower = c := by
    have hupper : ¬ (c.val ≥ 'A'.val ∧ c.val ≤ 'Z'.val) := by
      intro h
      have hdigit : c.val.toNat ≤ 57 := (Char.isDigit_iff_toNat.1 hc).2
      have hletter : 65 ≤ c.val.toNat := h.1
      omega
    exact dif_neg hupper
  have hletter : ∀ l : Char, l.isDigit = false → ∀ ls,
      (c :: rest).map Char.toLower ≠ l :: ls := by
    intro l hl ls heq
    rw [List.map_cons, hlower] at heq
    rw [← (List.cons.inj heq).1, hc] at hl
    cases hl
  have hinf : (c :: rest).map Char.toLower ≠ "inf".toList := hletter 'i' rfl _
  have hinfinity : (c :: rest).map Char.toLower ≠ "infinity".toList := hletter 'i' rfl _
  have hnan : (c :: rest).map Char.toLower ≠ "nan".toList := hletter 'n' rfl _
  simp only [word?, hinf, hinfinity, hnan, or_self, if_false]

/-- **Digits are read as the number nearest to what they denote.** -/
theorem magnitude?_of_natural? {cs : List Char} {n : Nat} (h : Text.natural? cs = some n) :
    magnitude? cs = some (nearest n 1) := by
  obtain ⟨⟨hne, hall⟩, hvalue⟩ := Option.ite_none_right_eq_some.1 h
  have hdigits : ∀ c ∈ cs, c.isDigit = true := List.all_eq_true.1 hall
  rw [magnitude?, word?_digits hne hdigits, Option.none_or, unsignedDecimal?_digits hne hdigits]
  exact congrArg (fun m => some (nearest m 1)) (Option.some.inj hvalue)

/-- The number nearest to an integer; zero may have either sign. -/
structure Rounds (x : Binary64) (k : Int) : Prop where
  magnitude_eq : x.magnitude = nearest k.natAbs 1
  nonpos : x.negative = true → k ≤ 0
  nonneg : x.negative = false → 0 ≤ k

theorem rounds_ofNat (n : Nat) : (ofNat n).Rounds n :=
  ⟨rfl, fun hsign => Bool.noConfusion hsign, fun _ => Int.natCast_nonneg n⟩

/-- An integer is read as the number nearest to it, with the sign that it is written with. -/
theorem exists_rounds_of_integer? {cs : List Char} {k : Int} (h : Text.integer? cs = some k) :
    ∃ x, ofText? cs = some x ∧ x.Rounds k := by
  by_cases hminus : ∃ rest, cs = '-' :: rest
  · obtain ⟨rest, rfl⟩ := hminus
    rw [Text.integer?_minus] at h
    obtain ⟨n, hn, rfl⟩ := Option.map_eq_some_iff.1 h
    refine ⟨⟨true, nearest n 1⟩, ?_, ?_, fun _ => by omega, fun hsign => Bool.noConfusion hsign⟩
    · rw [ofText?, magnitude?_of_natural? hn, Option.map_some]
    · rw [Int.natAbs_neg, Int.natAbs_natCast]
  · have hplain : ∀ rest, cs ≠ '-' :: rest := fun rest heq => hminus ⟨rest, heq⟩
    rw [Text.integer?_of_ne hplain] at h
    obtain ⟨n, hn, rfl⟩ := Option.map_eq_some_iff.1 h
    refine ⟨⟨false, nearest n 1⟩, ?_, rfl, fun hsign => Bool.noConfusion hsign,
      fun _ => Int.natCast_nonneg n⟩
    have hmagnitude := magnitude?_of_natural? hn
    unfold ofText?
    split
    · rename_i rest
      exact absurd rfl (hplain rest)
    · rw [Text.dropPlus] at hmagnitude
      rw [hmagnitude, Option.map_some]
    · rename_i hplus
      rw [Text.dropPlus_of_ne hplus] at hmagnitude
      rw [hmagnitude, Option.map_some]

namespace Rounds

variable {x : Binary64} {k : Int}

theorem isNaN_eq (h : x.Rounds k) : x.isNaN = false := by
  simp only [isNaN, h.magnitude_eq, decide_eq_false_iff_not, Nat.not_lt]
  exact Nat.min_le_left _ _

/-- Which zero it is makes no difference to the order. -/
theorem signedMagnitude_eq (h : x.Rounds k) (hnonneg : 0 ≤ k) :
    x.signedMagnitude = (ofNat k.toNat).signedMagnitude := by
  have hmagnitude : (ofNat k.toNat).signedMagnitude = nearest k.toNat 1 := rfl
  rw [hmagnitude, signedMagnitude, h.magnitude_eq]
  cases hsign : x.negative with
  | false =>
    rw [if_neg Bool.false_ne_true]
    congr 2
    omega
  | true =>
    have hzero : k = 0 := by
      have hnonpos := h.nonpos hsign
      omega
    subst hzero
    decide +kernel

theorem below_eq (h : x.Rounds k) (hnonneg : 0 ≤ k) (y : Binary64) :
    x.below y = (ofNat k.toNat).below y ∧ y.below x = y.below (ofNat k.toNat) := by
  simp only [below, h.signedMagnitude_eq hnonneg, h.isNaN_eq, (rounds_ofNat k.toNat).isNaN_eq,
    and_self]

/-- Integers below a bound of at most 53 bits are the ones that are below it after
    rounding. -/
theorem below_ofNat_iff (h : x.Rounds k) {least : Nat} (hleast : least ≤ 2 * binade) :
    x.below (ofNat least) = true ↔ k < least := by
  rcases Int.lt_or_le k 0 with hneg | hnonneg
  · have hsign : x.negative = true := by
      rw [← Bool.not_eq_false]
      intro hsign
      have hnonneg := h.nonneg hsign
      omega
    have hpositive : nearest 0 1 < nearest k.natAbs 1 := nearest_lt_of_lt (by decide) (by omega)
    have hplaces : x.signedMagnitude < (ofNat least).signedMagnitude := by
      simp only [ofNat, signedMagnitude, h.magnitude_eq, hsign, Bool.false_eq_true, if_false,
        if_true]
      omega
    simp only [below, h.isNaN_eq, (rounds_ofNat least).isNaN_eq, hplaces, decide_true,
      Bool.not_false, Bool.and_self, true_iff]
    omega
  · rw [(h.below_eq hnonneg _).1, Binary64.below_ofNat_iff]
    constructor
    · intro hlt
      rw [← Int.not_le]
      intro hle
      have hmono : nearest least 1 ≤ nearest k.toNat 1 := nearest_mono (by omega) 1
      omega
    · intro hlt
      exact nearest_lt_of_lt (by omega) (by omega)

end Rounds

/-- **A written decimal is read as the number nearest to it.** -/
theorem ofText?_decimal (n : Nat) : ofText? (Text.decimal n) = some (ofNat n) := by
  have hmagnitude := magnitude?_of_natural? (Text.natural?_decimal n)
  unfold ofText?
  split
  · rename_i rest heq
    exact absurd (heq ▸ List.mem_cons_self) (Text.notMem_decimal (c := '-') rfl n)
  · rename_i rest heq
    exact absurd (heq ▸ List.mem_cons_self) (Text.notMem_decimal (c := '+') rfl n)
  · rw [hmagnitude]
    rfl

end Binary64

end Number

/-! ### Rules on written numbers -/

namespace Rule

open Number (Binary64)
open Text (decimal)

variable {field : String}

theorem bound?_decimal (n : Nat) : bound? [String.ofList (decimal n)] = some (Binary64.ofNat n) := by
  simp only [bound?, List.head?_cons, Option.bind_some, String.toList_ofList,
    Binary64.ofText?_decimal]

/-- The value measures neither less than the least nor more than the greatest. -/
theorem rangeComplaint_eq_none_iff {value : String} {least greatest : Option Binary64}
    {measured : Binary64} {kind : Measure} (hmeasure : measure value = (measured, kind)) :
    rangeComplaint value least greatest = none ↔
      (∀ bound ∈ least, measured.below bound = false) ∧
        ∀ bound ∈ greatest, bound.below measured = false := by
  have hfilter : ∀ {side : Option Binary64} {outside : Binary64 → Bool},
      side.filter outside = none ↔ ∀ bound ∈ side, outside bound = false := by
    intro side outside
    simp only [Option.filter_eq_none_iff, Bool.not_eq_true, Option.mem_def]
  rw [← hfilter, ← hfilter]
  simp only [rangeComplaint, hmeasure]
  cases least.filter (measured.below ·) with
  | some bound => simp
  | none => cases greatest.filter (·.below measured) <;> simp

theorem atLeast_decimal_eq_none_iff {value : String} {least : Nat} {measured : Binary64}
    {kind : Measure} (hmeasure : measure value = (measured, kind)) :
    atLeast field value [String.ofList (decimal least)] = none ↔
      measured.below (Binary64.ofNat least) = false := by
  simp only [atLeast, bound?_decimal]
  rw [rangeComplaint_eq_none_iff hmeasure]
  simp

theorem atMost_decimal_eq_none_iff {value : String} {greatest : Nat} {measured : Binary64}
    {kind : Measure} (hmeasure : measure value = (measured, kind)) :
    atMost field value [String.ofList (decimal greatest)] = none ↔
      (Binary64.ofNat greatest).below measured = false := by
  simp only [atMost, bound?_decimal]
  rw [rangeComplaint_eq_none_iff hmeasure]
  simp

/-- The rules of a number let an integer pass that fits a signed word and whose rounded value
    keeps the rounded bounds. -/
theorem number_eq_none_iff (field : String) {value : String} {least greatest : Nat}
    (hleast : least ≤ 2 * Binary64.binade) :
    (integer field value [] = none ∧ atLeast field value [String.ofList (decimal least)] = none ∧
        atMost field value [String.ofList (decimal greatest)] = none) ↔
      ∃ k, Text.signed? (Text.trim value.toList) = some k ∧ (least : Int) ≤ k ∧
        (Binary64.ofNat greatest).below (Binary64.ofNat k.toNat) = false := by
  rw [integer, ofTest_eq_none_iff, Option.isSome_iff_exists]
  refine exists_and_right.symm.trans (exists_congr fun k => and_congr_right fun hk => ?_)
  have hinteger : Text.integer? (Text.trim value.toList) = some k :=
    (Option.filter_eq_some_iff.1 hk).1
  obtain ⟨x, hx, hrounds⟩ := Binary64.exists_rounds_of_integer? hinteger
  have hmeasure : measure value = (x, .value) := by rw [measure, hx]
  rw [atLeast_decimal_eq_none_iff hmeasure, atMost_decimal_eq_none_iff hmeasure,
    ← Bool.not_eq_true, hrounds.below_ofNat_iff hleast, Int.not_lt]
  refine and_congr_right fun hle => ?_
  rw [(hrounds.below_eq (by omega) _).2]

end Rule

/-! ### Rules of the page parameters -/

theorem Config.check_number_iff {σ ι : Type} (config : Config σ ι) (parameter : Parameter)
    {least greatest : Nat} (hbounds : parameter.bounds? config.pageSizes = some (least, greatest))
    {field value : String} :
    config.validator.check field value (parameter.rules config.pageSizes) = .ok none ↔
      ∃ k, Text.signed? (Text.trim value.toList) = some k ∧ (least : Int) ≤ k ∧
        (Number.Binary64.ofNat greatest).below (Number.Binary64.ofNat k.toNat) = false := by
  have hleast : least ≤ 2 * Number.Binary64.binade := by
    cases parameter <;> cases hbounds <;> decide
  have hinteger : config.validator.rule? "integer" = some Rule.integer :=
    config.rule?_standard (by decide) (by decide)
  have hmin : config.validator.rule? "min" = some Rule.atLeast :=
    config.rule?_standard (by decide) (by decide)
  have hmax : config.validator.rule? "max" = some Rule.atMost :=
    config.rule?_standard (by decide) (by decide)
  rw [Validator.check_eq_none_iff, Parameter.all_rules hbounds,
    ← Rule.number_eq_none_iff field hleast]
  simp only [List.forall_mem_cons, List.not_mem_nil, false_imp_iff, implies_true, and_true, hinteger,
    hmin, hmax, Option.some.injEq, exists_eq_left']

end Listing
