/-
  Listing/Proofs/Results.lean
  ===========================
  **Results that are collected from a list.**

  A function that may fail is run on every item of a list.  `mapM_eq_ok_iff` says
  what a success means item by item; the lemmas after it say when all the checks
  in a list find nothing, for checks that answer with a list or with at most one
  finding.
-/
import Listing.Validation.Validator
import Mathlib.Data.List.Forall2
import Mathlib.Data.List.ReduceOption

namespace Listing

variable {ε α β γ : Type}

/-! ### One result -/

namespace Except

theorem map_eq_ok_iff {f : α → β} {result : Except ε α} {b : β} :
    result.map f = .ok b ↔ ∃ a, result = .ok a ∧ f a = b := by
  cases result with
  | error e => simp [Except.map]
  | ok a => simp [Except.map]

theorem bind_eq_ok_iff {f : α → Except ε β} {result : Except ε α} {b : β} :
    result >>= f = .ok b ↔ ∃ a, result = .ok a ∧ f a = .ok b := by
  cases result with
  | error e => simp [bind, Except.bind]
  | ok a => simp [bind, Except.bind]

end Except

/-! ### Results of a list -/

theorem mapM_eq_ok_iff {f : α → Except ε β} {xs : List α} {ys : List β} :
    xs.mapM f = .ok ys ↔ List.Forall₂ (fun x y => f x = .ok y) xs ys := by
  induction xs generalizing ys with
  | nil =>
    rw [List.mapM_nil, List.forall₂_nil_left_iff]
    constructor
    · intro h
      exact (Except.ok.inj h).symm
    · intro h
      rw [h]
      rfl
  | cons x rest ih =>
    simp only [List.mapM_cons, Except.bind_eq_ok_iff, ih, List.forall₂_cons_left_iff]
    constructor
    · rintro ⟨y, hy, others, hothers, h⟩
      exact ⟨y, others, hy, hothers, (Except.ok.inj h).symm⟩
    · rintro ⟨y, others, hy, hothers, rfl⟩
      exact ⟨y, hy, others, hothers, rfl⟩

theorem exists_mapM_ok {f : α → Except ε β} {xs : List α} (h : ∀ x ∈ xs, ∃ y, f x = .ok y) :
    ∃ ys, xs.mapM f = .ok ys := by
  induction xs with
  | nil => exact ⟨[], rfl⟩
  | cons x rest ih =>
    obtain ⟨y, hy⟩ := h x List.mem_cons_self
    obtain ⟨others, hothers⟩ := ih fun z hz => h z (List.mem_cons_of_mem x hz)
    exact ⟨y :: others, mapM_eq_ok_iff.2 (.cons hy (mapM_eq_ok_iff.1 hothers))⟩

/-- Every item of one list is related to some item of the other. -/
theorem exists_of_forall₂ {R : α → β → Prop} {xs : List α} {ys : List β}
    (h : List.Forall₂ R xs ys) : ∀ x ∈ xs, ∃ y ∈ ys, R x y := by
  intro x hx
  induction h with
  | nil => cases hx
  | @cons z y zs others hy _ ih =>
    rcases List.mem_cons.1 hx with rfl | hx
    · exact ⟨y, List.mem_cons_self, hy⟩
    · obtain ⟨w, hw, hrelated⟩ := ih hx
      exact ⟨w, List.mem_cons_of_mem y hw, hrelated⟩

/-! ### Checks that find nothing -/

/-- Nothing is found in a list exactly when nothing is found in any item of it. -/
theorem map_mapM_eq_nil_iff {f : α → Except ε β} {join : List β → List γ} {empty : β}
    (hjoin : ∀ ys, join ys = [] ↔ ∀ y ∈ ys, y = empty) {xs : List α} :
    (xs.mapM f).map join = .ok [] ↔ ∀ x ∈ xs, f x = .ok empty := by
  rw [Except.map_eq_ok_iff]
  constructor
  · rintro ⟨ys, hys, hempty⟩ x hx
    obtain ⟨y, hy, hok⟩ := exists_of_forall₂ (mapM_eq_ok_iff.1 hys) x hx
    rw [hok, (hjoin ys).1 hempty y hy]
  · intro h
    obtain ⟨ys, hys⟩ := exists_mapM_ok fun x hx => ⟨empty, h x hx⟩
    refine ⟨ys, hys, (hjoin ys).2 ?_⟩
    intro y hy
    obtain ⟨x, hx, hok⟩ := exists_of_forall₂ (mapM_eq_ok_iff.1 hys).flip y hy
    exact Except.ok.inj (hok.symm.trans (h x hx))

theorem flatten_mapM_eq_nil_iff {f : α → Except ε (List β)} {xs : List α} :
    (xs.mapM f).map List.flatten = .ok [] ↔ ∀ x ∈ xs, f x = .ok [] :=
  map_mapM_eq_nil_iff fun _ => List.flatten_eq_nil_iff

theorem reduceOption_mapM_eq_nil_iff {f : α → Except ε (Option β)} {xs : List α} :
    (xs.mapM f).map List.reduceOption = .ok [] ↔ ∀ x ∈ xs, f x = .ok none := by
  refine map_mapM_eq_nil_iff ?_
  intro ys
  simp only [List.reduceOption, List.filterMap_eq_nil_iff, id_eq]

end Listing
