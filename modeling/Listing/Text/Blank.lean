/-
  Listing/Text/Blank.lean
  =======================
  **White space and trimming.**

  A value is trimmed before it is read as a number or a truth value, and a
  parameter of a filter token is trimmed when the token is taken apart.  What is
  trimmed is the Unicode property White_Space, twenty-five code points.
-/

namespace Listing.Text

/-- The Unicode property White_Space. -/
def isBlank (c : Char) : Bool :=
  let n := c.toNat
  (9 ≤ n && n ≤ 13) || n == 0x20 || n == 0x85 || n == 0xA0 || n == 0x1680
    || (0x2000 ≤ n && n ≤ 0x200A) || n == 0x2028 || n == 0x2029 || n == 0x202F
    || n == 0x205F || n == 0x3000

theorem isBlank_of_isWhitespace {c : Char} (h : c.isWhitespace = true) : isBlank c = true := by
  simp only [Char.isWhitespace, Bool.or_eq_true, decide_eq_true_eq] at h
  rcases h with ((rfl | rfl) | rfl) | rfl <;> decide

def trimEnd (cs : List Char) : List Char := (cs.reverse.dropWhile isBlank).reverse

def trim (cs : List Char) : List Char := trimEnd (cs.dropWhile isBlank)

/-- A text that neither starts nor ends with white space is left as it is. -/
theorem trim_of_notBlank {cs : List Char} (hhead : ∀ c, cs.head? = some c → isBlank c = false)
    (hlast : ∀ c, cs.getLast? = some c → isBlank c = false) : trim cs = cs := by
  have hstart : cs.dropWhile isBlank = cs := by
    cases cs with
    | nil => rfl
    | cons c rest => simp [hhead c rfl]
  have hend : cs.reverse.dropWhile isBlank = cs.reverse := by
    cases hr : cs.reverse with
    | nil => rfl
    | cons c rest =>
      have : cs.getLast? = some c := by rw [← List.head?_reverse, hr]; rfl
      simp [hlast c this]
  rw [trim, hstart, trimEnd, hend, List.reverse_reverse]

theorem isBlank_of_head?_dropWhile {cs : List Char} {c : Char}
    (h : (cs.dropWhile isBlank).head? = some c) : isBlank c = false := by
  have hhead := List.head?_dropWhile_not isBlank cs
  rw [h] at hhead
  exact hhead

theorem dropWhile_of_blank {cs : List Char} (h : ∀ c ∈ cs, isBlank c = true) :
    cs.dropWhile isBlank = [] := by
  rw [← List.append_nil cs, List.dropWhile_append_of_pos h, List.dropWhile_nil]

theorem trimEnd_append_blank (cs : List Char) {blanks : List Char}
    (h : ∀ c ∈ blanks, isBlank c = true) : trimEnd (cs ++ blanks) = trimEnd cs := by
  have hreverse : ∀ c ∈ blanks.reverse, isBlank c = true := fun c hc => h c (List.mem_reverse.1 hc)
  rw [trimEnd, List.reverse_append, List.dropWhile_append_of_pos hreverse, trimEnd]

/-- White space at the end makes no difference. -/
theorem trim_append_blank (cs : List Char) {blanks : List Char}
    (h : ∀ c ∈ blanks, isBlank c = true) : trim (cs ++ blanks) = trim cs := by
  rw [trim, List.dropWhile_append]
  split
  · rename_i hempty
    rw [trim, List.isEmpty_iff.1 hempty, dropWhile_of_blank h]
  · exact trimEnd_append_blank _ h

theorem exists_eq_trimEnd_append (cs : List Char) :
    ∃ blanks, cs = trimEnd cs ++ blanks ∧ ∀ c ∈ blanks, isBlank c = true := by
  refine ⟨(cs.reverse.takeWhile isBlank).reverse, ?_, ?_⟩
  · rw [trimEnd, ← List.reverse_append, List.takeWhile_append_dropWhile, List.reverse_reverse]
  · intro c hc
    exact List.all_eq_true.1 List.all_takeWhile c (List.mem_reverse.1 hc)

theorem trimEnd_cons {c : Char} (h : isBlank c = false) (cs : List Char) :
    trimEnd (c :: cs) = c :: trimEnd cs := by
  have hone : [c].dropWhile isBlank = [c] := by simp [h]
  rw [trimEnd, List.reverse_cons, List.dropWhile_append, hone]
  split
  · rename_i hempty
    rw [trimEnd, List.isEmpty_iff.1 hempty]
    rfl
  · rw [List.reverse_append, trimEnd]
    rfl

theorem trim_cons_of_blank {c : Char} (h : isBlank c = true) (cs : List Char) :
    trim (c :: cs) = trim cs := by
  rw [trim, List.dropWhile_cons_of_pos h, trim]

theorem trim_cons {c : Char} (h : isBlank c = false) (cs : List Char) :
    trim (c :: cs) = c :: trimEnd cs := by
  rw [trim, List.dropWhile_cons_of_neg (by simp [h]), trimEnd_cons h]

/-- Texts that are trimmed to the same behind one character are trimmed to the same. -/
theorem trim_eq_of_cons {c : Char} {cs ds : List Char} (h : trim (c :: cs) = trim (c :: ds)) :
    trim cs = trim ds := by
  cases hc : isBlank c with
  | true => rwa [trim_cons_of_blank hc, trim_cons_of_blank hc] at h
  | false =>
    rw [trim_cons hc, trim_cons hc] at h
    obtain ⟨left, hleft, hleftBlank⟩ := exists_eq_trimEnd_append cs
    obtain ⟨right, hright, hrightBlank⟩ := exists_eq_trimEnd_append ds
    rw [hleft, hright, trim_append_blank _ hleftBlank, trim_append_blank _ hrightBlank,
      (List.cons.inj h).2]

/-- What was trimmed starts and ends with something else than white space. -/
theorem trim_trim (cs : List Char) : trim (trim cs) = trim cs := by
  refine trim_of_notBlank ?_ ?_
  · intro c hc
    have hprefix : trim cs <+: cs.dropWhile isBlank := by
      rw [← List.reverse_suffix, trim, trimEnd, List.reverse_reverse]
      exact List.dropWhile_suffix isBlank
    obtain ⟨rest, hrest⟩ := hprefix
    have hhead : (cs.dropWhile isBlank).head? = some c := by
      rw [← hrest, List.head?_append, hc, Option.some_or]
    exact isBlank_of_head?_dropWhile hhead
  · intro c hc
    rw [trim, trimEnd, List.getLast?_reverse] at hc
    exact isBlank_of_head?_dropWhile hc

end Listing.Text
