/-
  Listing/Sorting.lean
  ====================
  **Stable sorting by evaluation.**

  Merge sort with structural recursion: on the two lists where it merges, and on
  a bound of the depth where it halves.  It computes what core's `List.mergeSort`
  computes (`sort_eq_mergeSort`), so that function's laws hold of it, and it can
  be evaluated on closed lists inside a proof.
-/

namespace Listing.Sorting

variable {α : Type}

/-! ### Merging -/

/-- Merge one element, and after it what `rest` merges, into a list.  The element
    goes before the first one that it is not greater than. -/
def mergeCons (le : α → α → Bool) (x : α) (rest : List α → List α) : List α → List α
  | [] => x :: rest []
  | y :: ys => if le x y then x :: rest (y :: ys) else y :: mergeCons le x rest ys

/-- Merge two lists; of equal elements those of the first list come first. -/
def merge (le : α → α → Bool) : List α → List α → List α
  | [], ys => ys
  | x :: xs, ys => mergeCons le x (merge le xs) ys

theorem merge_eq (le : α → α → Bool) (xs ys : List α) : merge le xs ys = xs.merge ys le := by
  induction xs generalizing ys with
  | nil => simp [merge]
  | cons x xs ih =>
    induction ys with
    | nil => simp [merge, mergeCons, ih]
    | cons y ys ihy =>
      rw [merge] at ihy
      rw [merge, mergeCons, List.cons_merge_cons, ih, ihy]

/-! ### Sorting -/

/-- Sort the halves and merge them, at most `depth` times into each other. -/
def sortWithin (le : α → α → Bool) : Nat → List α → List α
  | 0, xs => xs
  | depth + 1, xs =>
    if xs.length ≤ 1 then xs
    else
      let half := (xs.length + 1) / 2
      merge le (sortWithin le depth (xs.take half)) (sortWithin le depth (xs.drop half))

/-- Sort a list; equal elements keep their order.  The halves of a list are not
    longer than its length says, so that is depth enough. -/
def sort (le : α → α → Bool) (xs : List α) : List α := sortWithin le xs.length xs

theorem sortWithin_eq (le : α → α → Bool) (depth : Nat) (xs : List α) (h : xs.length ≤ depth) :
    sortWithin le depth xs = xs.mergeSort le := by
  induction depth generalizing xs with
  | zero =>
    have hnil : xs = [] := List.length_eq_zero_iff.1 (Nat.le_zero.1 h)
    simp [sortWithin, hnil]
  | succ depth ih =>
    match xs, h with
    | [], _ => simp [sortWithin]
    | [x], _ => simp [sortWithin]
    | x :: y :: rest, h =>
      have hlong : ¬ (x :: y :: rest).length ≤ 1 := by simp
      rw [sortWithin, if_neg hlong, List.mergeSort]
      simp only [List.MergeSort.Internal.splitInTwo_fst, List.MergeSort.Internal.splitInTwo_snd]
      rw [ih _ (by simp only [List.length_take, List.length_cons] at *; omega),
        ih _ (by simp only [List.length_drop, List.length_cons] at *; omega), merge_eq]

theorem sort_eq_mergeSort (le : α → α → Bool) (xs : List α) : sort le xs = xs.mergeSort le :=
  sortWithin_eq le xs.length xs (Nat.le_refl _)

end Listing.Sorting
