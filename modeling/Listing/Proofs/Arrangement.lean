/-
  Listing/Proofs/Arrangement.lean
  ===============================
  **The order in which a source in memory shows its entries.**

  What the comparison of two items says is spelled out without it: the first sort
  key on which they differ puts one of them first, in its direction (`Precedes`),
  or they differ on none (`AgreeOn`).  Values of a field are totally preordered,
  numbers by their size and values of different kinds by their JSON texts, and so
  the sorted view is the view arranged by this order, with entries that agree on
  every key where they were (`sortedView_arranged`).
-/
import Listing.Proofs.Magnitudes
import Listing.Proofs.Order

namespace Listing

open Std (OrientedCmp TransCmp)

variable {ι : Type}

/-! ### The size of numbers -/

namespace Number.Binary64

/-- A number below another has its place before it. -/
theorem place_lt_of_below {x y : Binary64} (h : x.below y = true) : x.place < y.place := by
  simp only [below, Bool.and_eq_true, decide_eq_true_eq] at h
  obtain ⟨-, hlt⟩ := h
  obtain ⟨nx, mx⟩ := x
  obtain ⟨ny, my⟩ := y
  cases nx <;> cases ny <;>
    simp only [signedMagnitude, place, Bool.false_eq_true, if_false, if_true] at hlt ⊢ <;> omega

/-- Rounding an integer to a number keeps its place among the integers. -/
theorem place_ofInt_mono {m n : Int} (h : m ≤ n) : (ofInt m).place ≤ (ofInt n).place := by
  simp only [ofInt, place]
  by_cases hm : m < 0
  · by_cases hn : n < 0
    · have hnearest := nearest_mono (n := n.natAbs) (m := m.natAbs) (by omega) 1
      simp only [hm, hn, decide_true, if_true]
      omega
    · simp only [hm, hn, decide_true, decide_false, if_true, Bool.false_eq_true, if_false]
      omega
  · have hn : ¬ n < 0 := by omega
    have hnearest := nearest_mono (n := m.natAbs) (m := n.natAbs) (by omega) 1
    simp only [hm, hn, decide_false, Bool.false_eq_true, if_false]
    omega

end Number.Binary64

namespace Memory

theorem compareValues_number_of_below {x y : JsonNumber}
    (h : x.toBinary64.below y.toBinary64 = true) :
    compareValues (some (.number x)) (some (.number y)) = .lt :=
  Int.compare_eq_lt.2 (Number.Binary64.place_lt_of_below h)

theorem isLE_compareValues_integer {m n : Int} (h : m ≤ n) :
    (compareValues (some (.number (.integer m))) (some (.number (.integer n)))).isLE = true := by
  have hplace := Number.Binary64.place_ofInt_mono h
  change (compare (Number.Binary64.ofInt m).place (Number.Binary64.ofInt n).place).isLE = true
  exact Std.isLE_compare.2 hplace

/-! ### The order of the sort keys -/

/-- The items do not differ on any of the sort keys. -/
def AgreeOn (keys : List (String × Direction)) (x y : Json) : Prop :=
  ∀ key ∈ keys, compareValues (valueAt x key.1) (valueAt y key.1) = .eq

/-- The first sort key on which the items differ puts the first item before the second: its
    value is the lesser one if the key ascends, and the greater one if it descends. -/
inductive Precedes : List (String × Direction) → Json → Json → Prop where
  | ascending {field : String} {rest : List (String × Direction)} {x y : Json}
      (less : compareValues (valueAt x field) (valueAt y field) = .lt) :
      Precedes ((field, .asc) :: rest) x y
  | descending {field : String} {rest : List (String × Direction)} {x y : Json}
      (greater : compareValues (valueAt x field) (valueAt y field) = .gt) :
      Precedes ((field, .desc) :: rest) x y
  | later {key : String × Direction} {rest : List (String × Direction)} {x y : Json}
      (same : compareValues (valueAt x key.1) (valueAt y key.1) = .eq)
      (precedes : Precedes rest x y) : Precedes (key :: rest) x y

theorem agreeOn_cons {key : String × Direction} {rest : List (String × Direction)} {x y : Json} :
    AgreeOn (key :: rest) x y ↔
      compareValues (valueAt x key.1) (valueAt y key.1) = .eq ∧ AgreeOn rest x y :=
  List.forall_mem_cons

theorem precedes_cons {field : String} {direction : Direction} {rest : List (String × Direction)}
    {x y : Json} :
    Precedes ((field, direction) :: rest) x y ↔
      direction.orient (compareValues (valueAt x field) (valueAt y field)) = .lt ∨
        compareValues (valueAt x field) (valueAt y field) = .eq ∧ Precedes rest x y := by
  constructor
  · intro h
    cases h with
    | ascending less => exact .inl less
    | descending greater => exact .inl (Ordering.swap_eq_lt.2 greater)
    | later same precedes => exact .inr ⟨same, precedes⟩
  · rintro (hlt | ⟨same, precedes⟩)
    · cases direction with
      | asc => exact .ascending hlt
      | desc => exact .descending (Ordering.swap_eq_lt.1 hlt)
    · exact .later same precedes

theorem orient_eq_eq_iff {direction : Direction} {o : Ordering} :
    direction.orient o = .eq ↔ o = .eq := by
  cases direction with
  | asc => exact Iff.rfl
  | desc => exact Ordering.swap_eq_eq

/-- The comparison by sort keys finds no difference exactly when there is none. -/
theorem compareKeys_eq_eq_iff {keys : List (String × Direction)} {x y : Json} :
    compareKeys keys x y = .eq ↔ AgreeOn keys x y := by
  induction keys with
  | nil =>
    constructor
    · rintro - key hmem
      cases hmem
    · intro _
      rfl
  | cons key rest ih =>
    obtain ⟨field, direction⟩ := key
    rw [compareKeys, Ordering.then_eq_eq, orient_eq_eq_iff, ih, agreeOn_cons]

/-- The comparison by sort keys puts an item first exactly when the first difference does. -/
theorem compareKeys_eq_lt_iff {keys : List (String × Direction)} {x y : Json} :
    compareKeys keys x y = .lt ↔ Precedes keys x y := by
  induction keys with
  | nil =>
    constructor
    · intro h
      cases h
    · intro h
      cases h
  | cons key rest ih =>
    obtain ⟨field, direction⟩ := key
    rw [compareKeys, Ordering.then_eq_lt, orient_eq_eq_iff, ih, precedes_cons]

theorem isLE_compareKeys_iff {keys : List (String × Direction)} {x y : Json} :
    (compareKeys keys x y).isLE = true ↔ Precedes keys x y ∨ AgreeOn keys x y := by
  rw [← compareKeys_eq_lt_iff, ← compareKeys_eq_eq_iff]
  cases compareKeys keys x y <;> decide

/-! ### Arranged entries -/

/-- A list of entries arranged by sort keys. -/
structure Arranged (keys : List (String × Direction)) (view arranged : List (Entry ι)) : Prop where
  perm : arranged.Perm view
  ordered : arranged.Pairwise fun x y =>
    Precedes keys x.value y.value ∨ AgreeOn keys x.value y.value
  /-- Entries that agree on every key stand as they stood, whatever the directions. -/
  stable : ∀ x y, AgreeOn keys x.value y.value → [x, y].Sublist view → [x, y].Sublist arranged
  /-- Where the view is in the order of the source, so are entries that agree on every key. -/
  inSourceOrder : view.Pairwise (fun x y => x.position < y.position) →
    arranged.Pairwise fun x y => AgreeOn keys x.value y.value → x.position < y.position

/-- Of two equal elements the same one stands first before and after sorting. -/
theorem pair_sublist_iff {α : Type} {cmp : α → α → Ordering} [TransCmp cmp] {xs sorted : List α}
    (h : StablySorted cmp xs sorted) {x y : α} (hxy : cmp x y = .eq) :
    [x, y].Sublist sorted ↔ [x, y].Sublist xs := by
  have hpair : [x, y].filter (fun z => cmp x z == .eq) = [x, y] := by
    rw [List.filter_eq_self]
    intro z hz
    rcases List.mem_pair.1 hz with rfl | rfl
    · exact beq_iff_eq.2 Std.ReflCmp.compare_self
    · exact beq_iff_eq.2 hxy
  constructor
  · intro hsub
    have hmem : x ∈ xs := h.perm.mem_iff.1 (hsub.subset List.mem_cons_self)
    have hequal := hsub.filter fun z => cmp x z == .eq
    rw [hpair, h.stable x hmem] at hequal
    exact hequal.trans List.filter_sublist
  · intro hsub
    have hmem : x ∈ xs := hsub.subset List.mem_cons_self
    have hequal := hsub.filter fun z => cmp x z == .eq
    rw [hpair, ← h.stable x hmem] at hequal
    exact hequal.trans List.filter_sublist

/-- Where two elements stand in a sorted list. -/
theorem pair_sublist_sorted_iff {α : Type} {cmp : α → α → Ordering} [TransCmp cmp]
    {xs sorted : List α} (h : StablySorted cmp xs sorted) {x y : α} (hx : x ∈ xs) (hy : y ∈ xs) :
    [x, y].Sublist sorted ↔ cmp x y = .lt ∨ cmp x y = .eq ∧ [x, y].Sublist xs := by
  have hordered : ∀ {x y}, [x, y].Sublist sorted → (cmp x y).isLE = true :=
    List.pairwise_iff_forall_sublist.1 h.ordered
  constructor
  · intro hsub
    have hle := hordered hsub
    cases hxy : cmp x y with
    | lt => exact .inl rfl
    | eq => exact .inr ⟨rfl, (pair_sublist_iff h hxy).1 hsub⟩
    | gt =>
      rw [hxy] at hle
      cases hle
  · rintro (hlt | ⟨heq, hsub⟩)
    · obtain ⟨front, rest, hsplit⟩ := List.append_of_mem (h.perm.mem_iff.2 hx)
      have hmem := h.perm.mem_iff.2 hy
      rw [hsplit, List.mem_append, List.mem_cons] at hmem
      rcases hmem with hfront | rfl | hrest
      · have hswapped : [y, x].Sublist sorted := by
          rw [hsplit]
          exact (List.singleton_sublist.2 hfront).append
            (List.singleton_sublist.2 List.mem_cons_self)
        have hle := hordered hswapped
        rw [OrientedCmp.gt_of_lt hlt] at hle
        cases hle
      · have hself : cmp y y = .eq := Std.ReflCmp.compare_self
        rw [hself] at hlt
        cases hlt
      · rw [hsplit]
        exact ((List.singleton_sublist.2 hrest).cons_cons x).trans
          (List.sublist_append_right front _)
    · exact (pair_sublist_iff h heq).2 hsub

/-- Two entries stand in the sorted view in the order in which the sort keys put them, and if they
    agree on all of them as they stood. -/
theorem pair_sublist_sortedView_iff {memory : Memory ι} {x y : Entry ι} (hx : x ∈ memory.view)
    (hy : y ∈ memory.view) :
    [x, y].Sublist memory.sortedView ↔
      Precedes memory.sortKeys x.value y.value ∨
        AgreeOn memory.sortKeys x.value y.value ∧ [x, y].Sublist memory.view := by
  have hcompare : TransCmp fun x y : Entry ι => compareKeys memory.sortKeys x.value y.value :=
    transCmp_comap Entry.value
  rw [← compareKeys_eq_lt_iff, ← compareKeys_eq_eq_iff]
  exact pair_sublist_sorted_iff memory.stablySorted_sortedView hx hy

theorem arranged_of_stablySorted {keys : List (String × Direction)} {view sorted : List (Entry ι)}
    (h : StablySorted (fun x y => compareKeys keys x.value y.value) view sorted) :
    Arranged keys view sorted := by
  have hcompare : TransCmp fun x y : Entry ι => compareKeys keys x.value y.value :=
    transCmp_comap Entry.value
  refine ⟨h.perm, h.ordered.imp isLE_compareKeys_iff.1, ?_, ?_⟩
  · intro x y hagree
    exact (pair_sublist_iff h (compareKeys_eq_eq_iff.2 hagree)).2
  · intro hview
    rw [List.pairwise_iff_forall_sublist] at hview ⊢
    intro x y hsub hagree
    exact hview ((pair_sublist_iff h (compareKeys_eq_eq_iff.2 hagree)).1 hsub)

/-- **Sorting is stable, by several keys, on any JSON.**  The values of a field are totally
    preordered, whatever their kinds: numbers by size, values of different kinds by their
    texts.  Hence the sorted view is the view arranged by the sort keys. -/
theorem sortedView_arranged :
    (∀ x, compareValues x x = .eq) ∧
    (∀ x y, compareValues y x = (compareValues x y).swap) ∧
    (∀ x y z, (compareValues x y).isLE = true → (compareValues y z).isLE = true →
      (compareValues x z).isLE = true) ∧
    (∀ x y : JsonNumber, x.toBinary64.below y.toBinary64 = true →
      compareValues (some (.number x)) (some (.number y)) = .lt) ∧
    (∀ m n : Int, m ≤ n → (compareValues (some (.number (.integer m)))
      (some (.number (.integer n)))).isLE = true) ∧
    (∀ x y : Json, rank x ≠ rank y ∨ rank x = 2 →
      compareValues (some x) (some y) = compare x.render y.render) ∧
    ∀ memory : Memory ι, Arranged memory.sortKeys memory.view memory.sortedView := by
  refine ⟨fun _ => Std.ReflCmp.compare_self, fun _ _ => OrientedCmp.eq_swap,
    fun _ _ _ => TransCmp.isLE_trans, fun _ _ => compareValues_number_of_below,
    fun _ _ => isLE_compareValues_integer, fun _ _ => comparePresent_eq_text, ?_⟩
  intro memory
  exact arranged_of_stablySorted memory.stablySorted_sortedView

/-- Groups ascend and ranks descend inside a group; strings come before numbers. -/
example :
    let entries : List (Entry Unit) := [
      ⟨0, (), .object [("group", .string "b"), ("rank", .ofNat 1)]⟩,
      ⟨1, (), .object [("group", .ofNat 7), ("rank", .ofNat 2)]⟩,
      ⟨2, (), .object [("group", .string "b"), ("rank", .ofNat 3)]⟩,
      ⟨3, (), .object [("rank", .ofNat 1)]⟩]
    let memory : Memory Unit := ⟨entries, entries, [("group", .asc), ("rank", .desc)]⟩
    memory.sortedView.map Entry.position = [3, 2, 0, 1] := by
  decide +kernel

end Memory

end Listing
