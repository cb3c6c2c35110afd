/-
  Listing/Proofs/Offsets.lean
  ===========================
  **The offsets of links are exact.**

  Offsets are unsigned words.  In words a sum or a product may not fit, a
  difference may lie below zero, and a division may lack a divisor; here each
  operation fails in that case, and for every total that is a word none of them
  does (`ofPage?_eq`).  So the links lead where unbounded numbers put them
  (`Exact`).  Following the link to the previous page ends at the start, and
  following the one to the next page visits the start of every page, the last
  one at the end (`Trail`).
-/
import Listing.Proofs.PageWalk
import Mathlib.Order.Bounds.Defs

namespace Listing

open Text (maxUnsigned)

/-! ### Operations that may fail -/

namespace Word

/-- A number that fits a word. -/
def fit? (n : Nat) : Option Nat := if n ≤ maxUnsigned then some n else none

def add? (a b : Nat) : Option Nat := fit? (a + b)

def mul? (a b : Nat) : Option Nat := fit? (a * b)

def sub? (a b : Nat) : Option Nat := if b ≤ a then some (a - b) else none

def div? (a b : Nat) : Option Nat := if b = 0 then none else some (a / b)

def mod? (a b : Nat) : Option Nat := if b = 0 then none else some (a % b)

/-- A quotient rounded up, made of operations on words. -/
def divCeil? (a b : Nat) : Option Nat := do
  let quotient ← div? a b
  let rest ← mod? a b
  if 0 < rest then add? quotient 1 else some quotient

variable {a b : Nat}

theorem fit?_of_le (h : a ≤ maxUnsigned) : fit? a = some a := if_pos h

theorem div?_of_pos (h : 0 < b) : div? a b = some (a / b) := if_neg (Nat.ne_of_gt h)

theorem mod?_of_pos (h : 0 < b) : mod? a b = some (a % b) := if_neg (Nat.ne_of_gt h)

/-- Rounding up counts pages, and what it adds fits. -/
theorem divCeil?_of_pos (hb : 0 < b) (ha : a ≤ maxUnsigned) :
    divCeil? a b = some (pageCount a b) := by
  have hdecompose : b * (a / b) + a % b = a := Nat.div_add_mod a b
  have hrest : a % b < b := Nat.mod_lt a hb
  rw [divCeil?, div?_of_pos hb, mod?_of_pos hb]
  simp only [Option.bind_eq_bind, Option.bind_some]
  split
  · rename_i hpos
    have hcount : pageCount a b = a / b + 1 := by
      refine Nat.div_eq_of_lt_le ?_ ?_
      · rw [Nat.succ_mul, Nat.mul_comm]
        omega
      · rw [Nat.succ_mul, Nat.succ_mul, Nat.mul_comm]
        omega
    have hle : a / b ≤ b * (a / b) := Nat.le_mul_of_pos_left _ hb
    rw [hcount]
    exact fit?_of_le (by omega)
  · rename_i hzero
    have hcount : pageCount a b = a / b := by
      refine Nat.div_eq_of_lt_le ?_ ?_
      · rw [Nat.mul_comm]
        omega
      · rw [Nat.succ_mul, Nat.mul_comm]
        omega
    rw [hcount]

end Word

/-! ### Links in words -/

namespace Links

open Word

/-- The next offset, computed in words: the sum that is compared stops at the largest word, the
    one that is given may fail. -/
def next? (total step offset : Nat) : Option (Option Nat) :=
  if saturatingAdd offset step < total then (add? offset step).map some else some .none

/-- The last offset, computed in words. -/
def last? (total step pages : Nat) : Option (Option Nat) :=
  if 1 < pages then do
    let greatest ← sub? total 1
    let quotient ← div? greatest step
    (mul? quotient step).map some
  else some .none

/-- The link offsets of a page, computed in words. -/
def ofPage? (total limit offset : Nat) : Option (Links Nat) := do
  let step := max limit 1
  let pages ← divCeil? total step
  let next ← next? total step offset
  let last ← last? total step pages
  return {
    first := if 1 < pages then some 0 else .none
    prev := if 0 < offset then some (offset - step) else .none
    next := next
    last := last }

variable {total : Nat}

theorem next?_eq (htotal : total ≤ maxUnsigned) (limit offset : Nat) :
    next? total (max limit 1) offset = some (ofPage total limit offset).next := by
  simp only [next?, ofPage]
  split
  · rename_i hless
    have hfits : offset + max limit 1 ≤ maxUnsigned := by
      unfold saturatingAdd at hless
      omega
    rw [add?, fit?_of_le hfits, Option.map_some]
  · rfl

theorem last?_eq (htotal : total ≤ maxUnsigned) (limit offset : Nat) :
    last? total (max limit 1) (pageCount total (max limit 1))
      = some (ofPage total limit offset).last := by
  have hstep : 1 ≤ max limit 1 := Nat.le_max_right _ _
  simp only [last?, ofPage]
  split
  · rename_i hseveral
    have hpos : 1 ≤ total := by
      rw [Nat.one_le_iff_ne_zero]
      rintro rfl
      exact absurd hseveral (Nat.not_lt.2 (pageCount_le_one hstep (Nat.zero_le _)))
    have hfits : (total - 1) / max limit 1 * max limit 1 ≤ maxUnsigned :=
      (Nat.div_mul_le_self _ _).trans ((Nat.sub_le _ _).trans htotal)
    simp only [sub?, if_pos hpos, div?_of_pos hstep, mul?, fit?_of_le hfits, Option.bind_eq_bind,
      Option.bind_some, Option.map_some]
  · rfl

/-- With at most as many items as a word counts, no operation fails. -/
theorem ofPage?_eq (htotal : total ≤ maxUnsigned) (limit offset : Nat) :
    ofPage? total limit offset = some (ofPage total limit offset) := by
  have hstep : 1 ≤ max limit 1 := Nat.le_max_right _ _
  simp only [ofPage?, divCeil?_of_pos hstep htotal, next?_eq htotal limit offset,
    last?_eq htotal limit offset, Option.bind_eq_bind, Option.bind_some]
  rfl

/-! ### Links as unbounded numbers -/

/-- Where the links of a page lead when numbers have no bounds. -/
structure Exact (total step offset : Nat) (links : Links Nat) : Prop where
  next_iff : ∀ n, links.next = some n ↔ offset + step < total ∧ n = offset + step
  prev_iff : ∀ n, links.prev = some n ↔ 0 < offset ∧ (n : Int) = max 0 ((offset : Int) - step)
  first_iff : ∀ n, links.first = some n ↔ step < total ∧ n = 0
  last_iff : (∃ n, links.last = some n) ↔ step < total
  /-- The last page starts at the greatest multiple of the step below the total. -/
  isGreatest_last : ∀ n ∈ links.last, IsGreatest {m | step ∣ m ∧ m < total} n

theorem isGreatest_div_mul {step : Nat} (hstep : 1 ≤ step) (hpos : 0 < total) :
    IsGreatest {m | step ∣ m ∧ m < total} ((total - 1) / step * step) := by
  constructor
  · have hle : (total - 1) / step * step ≤ total - 1 := Nat.div_mul_le_self _ _
    exact ⟨Nat.dvd_mul_left _ _, by omega⟩
  · rintro m ⟨⟨k, rfl⟩, hless⟩
    have hk : k ≤ (total - 1) / step := by
      rw [Nat.le_div_iff_mul_le hstep, Nat.mul_comm]
      omega
    rw [Nat.mul_comm]
    exact Nat.mul_le_mul_right step hk

theorem exact_ofPage (htotal : total ≤ maxUnsigned) (limit offset : Nat) :
    Exact total (max limit 1) offset (ofPage total limit offset) where
  next_iff := by
    intro n
    have hnext : (ofPage total limit offset).next = (ofPage total (max limit 1) offset).next := by
      simp only [ofPage, Nat.max_assoc, Nat.max_self]
    rw [hnext, next_ofPage htotal (Nat.le_max_right _ _), Option.ite_none_right_eq_some,
      Option.some.injEq, eq_comm (a := n)]
  prev_iff := by
    intro n
    simp only [ofPage, Option.ite_none_right_eq_some, Option.some.injEq]
    refine and_congr_right fun _ => ?_
    omega
  first_iff := by
    intro n
    simp only [ofPage, Option.ite_none_right_eq_some, Option.some.injEq,
      one_lt_pageCount_iff (Nat.le_max_right limit 1), eq_comm (a := n)]
  last_iff := by
    simp only [ofPage, Option.ite_none_right_eq_some, Option.some.injEq,
      one_lt_pageCount_iff (Nat.le_max_right limit 1), exists_and_left, exists_eq', and_true]
  isGreatest_last := by
    intro n hlast
    obtain ⟨hseveral, hn⟩ := Option.ite_none_right_eq_some.1 hlast
    have hless := (one_lt_pageCount_iff (Nat.le_max_right limit 1)).1 hseveral
    rw [← Option.some.inj hn]
    exact isGreatest_div_mul (Nat.le_max_right _ _) (Nat.zero_lt_of_lt hless)

end Links

/-! ### Following a link -/

/-- The offsets that are visited from an offset on by following a link until it is missing. -/
inductive Trail (link : Nat → Option Nat) : Nat → List Nat → Prop where
  | stop {offset : Nat} (missing : link offset = none) : Trail link offset [offset]
  | step {offset following : Nat} {rest : List Nat} (leads : link offset = some following)
      (trail : Trail link following rest) : Trail link offset (offset :: rest)

namespace Links

variable {total limit : Nat}

/-- The way back ends at the start. -/
theorem exists_trail_prev (total limit offset : Nat) :
    ∃ visited, Trail (fun place => (ofPage total limit place).prev) offset visited ∧
      visited.getLast? = some 0 := by
  induction offset using Nat.strongRecOn with
  | ind offset ih =>
    by_cases hstart : offset = 0
    · subst hstart
      exact ⟨[0], .stop rfl, rfl⟩
    · have hprev : (ofPage total limit offset).prev = some (offset - max limit 1) :=
        if_pos (Nat.pos_of_ne_zero hstart)
      obtain ⟨visited, htrail, hlast⟩ := ih (offset - max limit 1) (by omega)
      refine ⟨offset :: visited, .step hprev htrail, ?_⟩
      have hne : visited ≠ [] := by
        rintro rfl
        cases hlast
      rw [List.getLast?_cons_of_ne_nil hne, hlast]

/-- From the start of a page the next one leads to the start of the page behind it, if any. -/
theorem next_of_page_iff (htotal : total ≤ maxUnsigned) (limit page n : Nat) :
    (ofPage total limit (page * max limit 1)).next = some n ↔
      page + 1 < pageCount total (max limit 1) ∧ n = (page + 1) * max limit 1 := by
  rw [(exact_ofPage htotal limit _).next_iff, ← Nat.succ_mul,
    lt_pageCount_iff (Nat.le_max_right limit 1)]

/-- From the start of a page the way forward visits the starts of the pages from there on. -/
theorem trail_next (htotal : total ≤ maxUnsigned) (limit left page : Nat)
    (hleft : page + left + 1 = pageCount total (max limit 1)) :
    Trail (fun place => (ofPage total limit place).next) (page * max limit 1)
      ((List.range' page (left + 1)).map (· * max limit 1)) := by
  -- the pages that are left behind this one
  induction left generalizing page with
  | zero =>
    refine .stop (Option.eq_none_iff_forall_ne_some.2 ?_)
    intro n hn
    have hmore := ((next_of_page_iff htotal limit page n).1 hn).1
    omega
  | succ left ih =>
    have hnext : (ofPage total limit (page * max limit 1)).next
        = some ((page + 1) * max limit 1) :=
      (next_of_page_iff htotal limit page _).2 ⟨by omega, rfl⟩
    rw [List.range'_succ, List.map_cons]
    exact .step hnext (ih (page + 1) (by omega))

/-- The way forward from the start visits the starts of all pages, and ends where the link to the
    last page leads. -/
theorem trail_next_start (htotal : total ≤ maxUnsigned) (hpos : 0 < total) (limit : Nat) :
    let visited := (List.range (pageCount total (max limit 1))).map (· * max limit 1)
    Trail (fun place => (ofPage total limit place).next) 0 visited ∧
      ∀ offset, ∀ final ∈ (ofPage total limit offset).last, visited.getLast? = some final := by
  have hsucc := pageCount_eq_succ (Nat.le_max_right limit 1) hpos
  constructor
  · have htrail := trail_next htotal limit ((total - 1) / max limit 1) 0 (by omega)
    rw [Nat.zero_mul, ← hsucc, ← List.range_eq_range'] at htrail
    exact htrail
  · intro offset final hfinal
    obtain ⟨-, hlast⟩ := Option.ite_none_right_eq_some.1 hfinal
    rw [List.getLast?_map, List.getLast?_range, hsucc, if_neg (Nat.succ_ne_zero _),
      Nat.add_sub_cancel]
    exact hlast

/-! ### All of it -/

/-- **The offsets of links are exact.**  For every total that is a word the links are computed in
    words without a sum or product too large, a difference below zero or a division by zero, and
    so is the number of pages.  They lead where unbounded numbers have them.  The page before the
    next one is this one; the way back ends at the start, and the way forward from the start
    visits as many offsets as there are pages, at the multiples of the step, and ends at the last
    page. -/
theorem page_offsets_exact (htotal : total ≤ maxUnsigned) (limit offset : Nat) :
    let step := max limit 1
    let links := ofPage total limit
    ofPage? total limit offset = some (links offset) ∧
    (∀ (request : PageRequest) (standard : Nat),
      let size := (request.window standard).limit
      Word.divCeil? total size = some (pageCount total size) ∧
        pageCount total size = total ⌈/⌉ size) ∧
    (links offset).Exact total step offset ∧
    (∀ n, (links offset).next = some n → (links n).prev = some offset) ∧
    (∃ visited, Trail (fun place => (links place).prev) offset visited ∧
      visited.getLast? = some 0) ∧
    (0 < total → ∃ visited, Trail (fun place => (links place).next) 0 visited ∧
      visited = (List.range (total ⌈/⌉ step)).map (· * step) ∧
      visited.length = total ⌈/⌉ step ∧
      ∀ final ∈ (links offset).last, visited.getLast? = some final) := by
  intro step links
  refine ⟨ofPage?_eq htotal limit offset, ?_, exact_ofPage htotal limit offset, ?_,
    exists_trail_prev total limit offset, ?_⟩
  · intro request standard size
    exact ⟨Word.divCeil?_of_pos (request.limit_window_pos standard) htotal,
      Assembly.pageCount_eq_ceilDiv total size⟩
  · intro n hnext
    obtain ⟨-, rfl⟩ := ((exact_ofPage htotal limit offset).next_iff n).1 hnext
    rw [(exact_ofPage htotal limit _).prev_iff]
    omega
  · intro hpos
    obtain ⟨htrail, hlast⟩ := trail_next_start htotal hpos limit
    rw [Assembly.pageCount_eq_ceilDiv] at htrail hlast
    exact ⟨_, htrail, rfl, by rw [List.length_map, List.length_range], hlast offset⟩

/-- Two pages hold the largest total; what follows the second one is no word, and it is not mistaken
    for the total, at which a sum of words stops. -/
theorem largest_total_exact :
    let total := 18446744073709551615
    let limit := 9223372036854775808
    ofPage? total limit limit = some ⟨some 0, some 0, .none, some limit⟩ ∧
      ∃ visited, Trail (fun place => (ofPage total limit place).next) 0 visited ∧
        visited.length = 2 := by
  intro total limit
  obtain ⟨hwords, -, -, -, -, hforward⟩ :=
    page_offsets_exact (show total ≤ maxUnsigned by decide) limit limit
  obtain ⟨visited, htrail, -, hlength, -⟩ := hforward (by decide)
  refine ⟨hwords.trans ?_, visited, htrail, hlength.trans ?_⟩
  · decide +kernel
  · decide +kernel

end Links

end Listing
