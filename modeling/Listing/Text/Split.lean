/-
  Listing/Text/Split.lean
  =======================
  **Cutting and searching text.**

  A query string, a filter token and a rule string are all taken apart at single
  characters.  `cut?` cuts once, at the first separator; `pieces` cuts at every
  one.  `occursIn` and `replaceAll` look for a whole pattern from left to right.

  Everything here recurses on the text, so a statement about a text is an
  induction on it.  A text is a list of characters, or of octets where it is
  taken apart before it is decoded.
-/

namespace Listing.Text

variable {α : Type} [DecidableEq α]

/-! ### Cutting at a separator -/

/-- Cut a text at the first `sep`: what stands before it, and what stands after
    it.  There is no cut when `sep` does not occur. -/
def cut? (sep : α) : List α → Option (List α × List α)
  | [] => none
  | c :: rest =>
    if c = sep then some ([], rest)
    else (cut? sep rest).map fun (before, after) => (c :: before, after)

theorem eq_append_of_cut? {sep : α} {cs before after : List α}
    (h : cut? sep cs = some (before, after)) : cs = before ++ sep :: after := by
  induction cs generalizing before with
  | nil => simp [cut?] at h
  | cons c rest ih =>
    by_cases hc : c = sep
    · simp only [cut?, hc, if_true, Option.some.injEq, Prod.mk.injEq] at h
      obtain ⟨rfl, rfl⟩ := h
      simp [hc]
    · simp only [cut?, hc, if_false, Option.map_eq_some_iff, Prod.mk.injEq] at h
      obtain ⟨⟨b, a⟩, hba, rfl, rfl⟩ := h
      simp [ih hba]

theorem notMem_of_cut? {sep : α} {cs before after : List α}
    (h : cut? sep cs = some (before, after)) : sep ∉ before := by
  induction cs generalizing before with
  | nil => simp [cut?] at h
  | cons c rest ih =>
    by_cases hc : c = sep
    · simp only [cut?, hc, if_true, Option.some.injEq, Prod.mk.injEq] at h
      obtain ⟨rfl, rfl⟩ := h
      simp
    · simp only [cut?, hc, if_false, Option.map_eq_some_iff, Prod.mk.injEq] at h
      obtain ⟨⟨b, a⟩, hba, rfl, rfl⟩ := h
      simp [ih hba, Ne.symm hc]

theorem cut?_eq_none_iff {sep : α} {cs : List α} : cut? sep cs = none ↔ sep ∉ cs := by
  induction cs with
  | nil => simp [cut?]
  | cons c rest ih =>
    by_cases hc : c = sep
    · simp [cut?, hc]
    · simp [cut?, hc, ih, Ne.symm hc]

theorem cut?_append {sep : α} {before after : List α} (h : sep ∉ before) :
    cut? sep (before ++ sep :: after) = some (before, after) := by
  induction before with
  | nil => simp [cut?]
  | cons c rest ih =>
    simp only [List.mem_cons, not_or] at h
    simp [cut?, Ne.symm h.1, ih h.2]

theorem cut?_eq_some_iff {sep : α} {cs before after : List α} :
    cut? sep cs = some (before, after) ↔ cs = before ++ sep :: after ∧ sep ∉ before := by
  constructor
  · intro h
    exact ⟨eq_append_of_cut? h, notMem_of_cut? h⟩
  · rintro ⟨rfl, hbefore⟩
    exact cut?_append hbefore

/-- The pieces of a text between the separators.  There is one piece more than
    there are separators, so the empty text has one empty piece. -/
def pieces (sep : α) : List α → List (List α)
  | [] => [[]]
  | c :: rest =>
    if c = sep then [] :: pieces sep rest
    else
      match pieces sep rest with
      | [] => [[c]]
      | piece :: others => (c :: piece) :: others

theorem pieces_ne_nil (sep : α) (cs : List α) : pieces sep cs ≠ [] := by
  cases cs with
  | nil => simp [pieces]
  | cons c rest =>
    simp only [pieces]
    split
    · simp
    · split <;> simp

theorem intercalate_pieces (sep : α) (cs : List α) :
    [sep].intercalate (pieces sep cs) = cs := by
  induction cs with
  | nil => simp [pieces]
  | cons c rest ih =>
    simp only [pieces]
    split
    · rename_i hc
      cases hp : pieces sep rest with
      | nil => exact absurd hp (pieces_ne_nil sep rest)
      | cons piece others =>
        rw [hp] at ih
        simp only [List.intercalate_cons_cons, ih]
        simp [hc]
    · cases hp : pieces sep rest with
      | nil => exact absurd hp (pieces_ne_nil sep rest)
      | cons piece others =>
        rw [hp] at ih
        cases others with
        | nil => simp_all
        | cons next more =>
          simp only [List.intercalate_cons_cons] at ih ⊢
          simp [← ih]

theorem pieces_of_notMem {sep : α} {cs : List α} (h : sep ∉ cs) : pieces sep cs = [cs] := by
  induction cs with
  | nil => rfl
  | cons c rest ih =>
    simp only [List.mem_cons, not_or] at h
    simp [pieces, Ne.symm h.1, ih h.2]

theorem pieces_append (sep : α) (cs ds : List α) :
    pieces sep (cs ++ sep :: ds) = pieces sep cs ++ pieces sep ds := by
  induction cs with
  | nil => simp [pieces]
  | cons c rest ih =>
    simp only [List.cons_append, pieces, ih]
    split
    · rfl
    · cases hp : pieces sep rest with
      | nil => exact absurd hp (pieces_ne_nil sep rest)
      | cons piece others => rfl

/-- Put a text in front of the first of several pieces. -/
def extend {β : Type} (front : List β) : List (List β) → List (List β)
  | [] => [front]
  | piece :: others => (front ++ piece) :: others

theorem extend_ne_nil {β : Type} (front : List β) (parts : List (List β)) :
    extend front parts ≠ [] := by
  cases parts <;> exact List.cons_ne_nil _ _

theorem extend_extend {β : Type} (front more : List β) (parts : List (List β)) :
    extend front (extend more parts) = extend (front ++ more) parts := by
  cases parts with
  | nil => rfl
  | cons piece others => simp only [extend, List.append_assoc]

/-- A text without the separator belongs to the first piece of what it stands in front of. -/
theorem pieces_append_of_notMem {sep : α} {front : List α} (h : sep ∉ front) (cs : List α) :
    pieces sep (front ++ cs) = extend front (pieces sep cs) := by
  induction front with
  | nil =>
    cases hp : pieces sep cs with
    | nil => exact absurd hp (pieces_ne_nil sep cs)
    | cons piece others => simp only [List.nil_append, hp, extend]
  | cons c rest ih =>
    simp only [List.mem_cons, not_or] at h
    rw [List.cons_append, pieces, if_neg (Ne.symm h.1), ih h.2]
    cases pieces sep cs <;> rfl

/-! ### Looking for a pattern -/

def occursIn (pattern : List α) : List α → Bool
  | [] => pattern.isEmpty
  | c :: rest => pattern.isPrefixOf (c :: rest) || occursIn pattern rest

theorem occursIn_iff {pattern cs : List α} : occursIn pattern cs = true ↔ pattern <:+: cs := by
  induction cs with
  | nil => simp [occursIn]
  | cons c rest ih =>
    rw [occursIn, Bool.or_eq_true, ih, List.isPrefixOf_iff_prefix, List.infix_cons_iff]

/-- Replace the occurrences of `old`, found from left to right and not
    overlapping, by `new`.  `skip` counts the characters of an occurrence that
    are still to be passed over. -/
def replaceFrom (old new : List α) (skip : Nat) : List α → List α
  | [] => []
  | c :: rest =>
    match skip with
    | left + 1 => replaceFrom old new left rest
    | 0 =>
      if old.isPrefixOf (c :: rest) then new ++ replaceFrom old new (old.length - 1) rest
      else c :: replaceFrom old new 0 rest

/-- Replace every occurrence of the (non-empty) text `old` by `new`. -/
def replaceAll (old new cs : List α) : List α := replaceFrom old new 0 cs

theorem replaceFrom_eq_drop (old new : List α) (skip : Nat) (cs : List α) :
    replaceFrom old new skip cs = replaceAll old new (cs.drop skip) := by
  induction cs generalizing skip with
  | nil => cases skip <;> rfl
  | cons c rest ih =>
    cases skip with
    | zero => rfl
    | succ left => exact ih left

theorem replaceAll_append {old : List α} (h : old ≠ []) (new cs : List α) :
    replaceAll old new (old ++ cs) = new ++ replaceAll old new cs := by
  cases old with
  | nil => exact absurd rfl h
  | cons o more =>
    have hprefix : (o :: more).isPrefixOf (o :: (more ++ cs)) = true :=
      List.isPrefixOf_iff_prefix.2 (List.prefix_append (o :: more) cs)
    have hskip : (more ++ cs).drop ((o :: more).length - 1) = cs := List.drop_left
    rw [replaceAll, List.cons_append, replaceFrom, if_pos hprefix, replaceFrom_eq_drop, hskip]

theorem replaceAll_cons {old : List α} {c : α} {cs : List α} (h : ¬ old <+: c :: cs)
    (new : List α) : replaceAll old new (c :: cs) = c :: replaceAll old new cs := by
  have hprefix : ¬ old.isPrefixOf (c :: cs) = true := fun hp => h (List.isPrefixOf_iff_prefix.1 hp)
  rw [replaceAll, replaceFrom, if_neg hprefix]
  rfl

theorem replaceAll_of_notMem {o : α} {old new cs : List α} (h : o ∉ cs) :
    replaceAll (o :: old) new cs = cs := by
  unfold replaceAll
  induction cs with
  | nil => rfl
  | cons c rest ih =>
    simp only [List.mem_cons, not_or] at h
    have hp : (o :: old).isPrefixOf (c :: rest) = false := by
      simp [List.isPrefixOf, beq_eq_false_iff_ne.2 h.1]
    simp [replaceFrom, hp, ih h.2]

end Listing.Text
