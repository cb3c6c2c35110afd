/-
  Listing/Proofs/Order.lean
  =========================
  **The order of JSON values, and sorting by it.**

  Values of different kinds are compared by their JSON texts, and the first
  character of a text tells strings, numbers and all other values apart.  Hence
  every comparison comes down to comparing three keys one after the other
  (`compareValues_eq_compareSortKeys`): the kind, the place of a number, and a
  text.  The order is total and transitive for that reason, sort keys inherit it,
  and sorting by it is stable sorting in the full sense (`StablySorted`).
-/
import Listing.Memory.Source
import Mathlib.Data.List.Pairwise

namespace Listing

open Std (TransCmp OrientedCmp)

/-! ### Texts by their first characters -/

theorem compare_eq_lt_of_head {x y : String} {c d : Char} {cs ds : List Char}
    (hx : x.toList = c :: cs) (hy : y.toList = d :: ds) (h : c < d) : compare x y = .lt := by
  have hlt : x < y := by
    change x.toList < y.toList
    rw [hx, hy, List.cons_lt_cons_iff]
    exact .inl h
  change compareOfLessAndEq x y = .lt
  rw [compareOfLessAndEq, if_pos hlt]

namespace Number

theorem exists_positionalText (ending : String) {c : Char} {cs : List Char} (h : c.isDigit = true)
    (before : Int) :
    ∃ d ds, positionalText ending (c :: cs) before = d :: ds ∧ d.isDigit = true := by
  unfold positionalText
  split
  · exact ⟨'0', _, rfl, by decide⟩
  · rename_i hbefore
    obtain ⟨k, hk⟩ : ∃ k, before.toNat = k + 1 := ⟨before.toNat - 1, by omega⟩
    simp only [hk, List.take_succ_cons, List.cons_append]
    split
    · exact ⟨c, _, rfl, h⟩
    · exact ⟨c, _, rfl, h⟩

theorem exists_scientificText {c : Char} {cs : List Char} (h : c.isDigit = true) (power : Int) :
    ∃ d ds, scientificText (c :: cs) power = d :: ds ∧ d.isDigit = true := by
  cases cs with
  | nil => exact ⟨c, _, rfl, h⟩
  | cons _ _ => exact ⟨c, _, rfl, h⟩

theorem exists_absolute (layout : Layout) {x : Binary64} (h : x.isFinite = true) :
    ∃ c cs, layout.absolute x = c :: cs ∧ c.isDigit = true := by
  have hnumber : x.isNaN = false := by
    simp only [Binary64.isFinite, Binary64.isNaN, decide_eq_true_eq, decide_eq_false_iff_not] at h ⊢
    omega
  simp only [Layout.absolute, hnumber, h, Bool.false_eq_true, if_false, Bool.not_true]
  split
  · exact ⟨'0', _, rfl, by decide⟩
  · obtain ⟨c, cs, hdigits, hc⟩ := Text.exists_decimal (shortest layout.tie x.magnitude).coefficient
    rw [Text.decimal] at hdigits
    rw [hdigits]
    split
    · exact exists_positionalText _ hc _
    · exact exists_scientificText hc _

end Number

theorem JsonNumber.exists_text (n : JsonNumber) :
    ∃ c cs, n.text = c :: cs ∧ (c = '-' ∨ c.isDigit = true) := by
  cases n with
  | integer n =>
    simp only [text, Text.decimalInt]
    split
    · exact ⟨'-', _, rfl, .inl rfl⟩
    · obtain ⟨c, cs, hn, hc⟩ := Text.exists_decimal n.natAbs
      exact ⟨c, cs, hn, .inr hc⟩
  | float x finite =>
    obtain ⟨c, cs, habsolute, hc⟩ := Number.exists_absolute .json finite
    simp only [text, Number.Layout.render]
    split
    · exact ⟨'-', _, rfl, .inl rfl⟩
    · exact ⟨c, cs, habsolute, .inr hc⟩

/-! ### Kinds of values -/

namespace Memory

/-- The place of a value's kind: strings come before numbers, and numbers before all other
    values. -/
def rank : Json → Nat
  | .string _ => 0
  | .number _ => 1
  | _ => 2

/-- The first character of a value's text tells the value's kind: a quote, a minus sign or
    digit, or something behind the digits. -/
theorem exists_text (value : Json) : ∃ c cs, value.text = c :: cs ∧
    (rank value = 0 ∧ c.toNat = 34 ∨ rank value = 1 ∧ 45 ≤ c.toNat ∧ c.toNat ≤ 57 ∨
      rank value = 2 ∧ 57 < c.toNat) := by
  cases value with
  | null => exact ⟨'n', _, rfl, by decide⟩
  | bool b =>
    cases b with
    | true => exact ⟨'t', _, rfl, by decide⟩
    | false => exact ⟨'f', _, rfl, by decide⟩
  | number n =>
    obtain ⟨c, cs, hn, hc⟩ := n.exists_text
    refine ⟨c, cs, hn, .inr (.inl ⟨rfl, ?_⟩)⟩
    rcases hc with rfl | hc
    · decide
    · have hdigit : 48 ≤ c.toNat ∧ c.toNat ≤ 57 := Char.isDigit_iff_toNat.1 hc
      omega
  | string s => exact ⟨'"', _, rfl, .inl ⟨rfl, rfl⟩⟩
  | array items =>
    cases items with
    | nil => exact ⟨'[', _, rfl, by decide⟩
    | cons item rest => exact ⟨'[', _, rfl, .inr (.inr ⟨rfl, by decide⟩)⟩
  | object fields =>
    cases fields with
    | nil => exact ⟨'\x7b', _, rfl, by decide⟩
    | cons field rest => exact ⟨'\x7b', _, rfl, .inr (.inr ⟨rfl, by decide⟩)⟩

theorem compare_render_of_rank_lt {x y : Json} (h : rank x < rank y) :
    compare x.render y.render = .lt := by
  obtain ⟨c, cs, hx, hc⟩ := exists_text x
  obtain ⟨d, ds, hy, hd⟩ := exists_text y
  have hrender : ∀ value : Json, value.render.toList = value.text := fun _ => String.toList_ofList
  have htoNat : c.val.toNat < d.val.toNat := by
    change c.toNat < d.toNat
    omega
  have hlt : c < d := Char.lt_def.2 (UInt32.lt_iff_toNat_lt.2 htoNat)
  exact compare_eq_lt_of_head ((hrender x).trans hx) ((hrender y).trans hy) hlt

/-- Values of which one is neither string nor number, or of different kinds, are compared by
    their texts. -/
theorem comparePresent_eq_text {x y : Json} (h : rank x ≠ rank y ∨ rank x = 2) :
    comparePresent x y = compare x.render y.render := by
  cases x <;> cases y <;> simp [rank] at h <;> try rfl
  rename_i b c
  cases b <;> cases c <;> rfl

/-- What a value that may be absent is sorted by: its kind, and then its place among numbers
    or its text. -/
def sortKey : Option Json → Nat × Int × String
  | none => (0, 0, "")
  | some (.string s) => (1, 0, s)
  | some (.number n) => (2, n.toBinary64.place, "")
  | some value => (3, 0, value.render)

theorem sortKey_fst (value : Json) : (sortKey (some value)).1 = rank value + 1 := by
  cases value <;> rfl

theorem sortKey_of_rank_eq_two {value : Json} (h : rank value = 2) :
    sortKey (some value) = (3, 0, value.render) := by
  cases value <;> first | rfl | cases h

/-- The order of sort keys. -/
def compareSortKeys (x y : Option Json) : Ordering :=
  compareLex (compareOn fun value => (sortKey value).1)
    (compareLex (compareOn fun value => (sortKey value).2.1)
      (compareOn fun value => (sortKey value).2.2)) x y

instance : TransCmp compareSortKeys :=
  inferInstanceAs (TransCmp (compareLex (compareOn fun value => (sortKey value).1)
    (compareLex (compareOn fun value => (sortKey value).2.1)
      (compareOn fun value => (sortKey value).2.2))))

theorem compareSortKeys_of_fst {x y : Option Json} {o : Ordering}
    (h : compare (sortKey x).1 (sortKey y).1 = o) (ho : o ≠ .eq) : compareSortKeys x y = o := by
  have hfst : compareSortKeys x y = (compare (sortKey x).1 (sortKey y).1).then
      ((compare (sortKey x).2.1 (sortKey y).2.1).then
        (compare (sortKey x).2.2 (sortKey y).2.2)) := rfl
  rw [hfst, h]
  cases o with
  | eq => exact absurd rfl ho
  | lt => rfl
  | gt => rfl

theorem comparePresent_eq_compareSortKeys (x y : Json) :
    comparePresent x y = compareSortKeys (some x) (some y) := by
  rcases Nat.lt_trichotomy (rank x) (rank y) with hlt | heq | hgt
  · rw [comparePresent_eq_text (.inl (Nat.ne_of_lt hlt)), compare_render_of_rank_lt hlt]
    refine (compareSortKeys_of_fst ?_ (by decide)).symm
    rw [sortKey_fst, sortKey_fst]
    exact Nat.compare_eq_lt.2 (Nat.add_lt_add_right hlt 1)
  · by_cases htwo : rank x = 2
    · have hy : rank y = 2 := heq ▸ htwo
      rw [comparePresent_eq_text (.inr htwo)]
      simp [compareSortKeys, compareLex, compareOn, sortKey_of_rank_eq_two htwo,
        sortKey_of_rank_eq_two hy]
    · cases x <;> cases y <;> simp [rank] at heq htwo
      · simp [comparePresent, compareSortKeys, compareLex, compareOn, sortKey, Number.Binary64.totalOrder]
      · simp [comparePresent, compareSortKeys, compareLex, compareOn, sortKey]
  · have htext : compare x.render y.render = .gt :=
      OrientedCmp.gt_iff_lt.2 (compare_render_of_rank_lt hgt)
    rw [comparePresent_eq_text (.inl (Nat.ne_of_gt hgt)), htext]
    refine (compareSortKeys_of_fst ?_ (by decide)).symm
    rw [sortKey_fst, sortKey_fst]
    exact Nat.compare_eq_gt.2 (Nat.add_lt_add_right hgt 1)

theorem compareValues_eq_compareSortKeys : compareValues = compareSortKeys := by
  funext x y
  cases x with
  | none =>
    cases y with
    | none => rfl
    | some y =>
      refine (compareSortKeys_of_fst (o := .lt) ?_ (by decide)).symm
      rw [sortKey_fst]
      exact Nat.compare_eq_lt.2 (Nat.succ_pos _)
  | some x =>
    cases y with
    | none =>
      refine (compareSortKeys_of_fst (o := .gt) ?_ (by decide)).symm
      rw [sortKey_fst]
      exact Nat.compare_eq_gt.2 (Nat.succ_pos _)
    | some y => exact comparePresent_eq_compareSortKeys x y

instance : TransCmp compareValues := compareValues_eq_compareSortKeys ▸ inferInstance

end Memory

/-! ### Comparing by several keys -/

section Comparisons

variable {α β : Type}

theorem transCmp_comap {cmp : β → β → Ordering} [TransCmp cmp] (f : α → β) :
    TransCmp fun x y => cmp (f x) (f y) where
  eq_swap := OrientedCmp.eq_swap
  isLE_trans := TransCmp.isLE_trans

theorem Direction.transCmp_orient (direction : Direction) {cmp : α → α → Ordering} [TransCmp cmp] :
    TransCmp fun x y => direction.orient (cmp x y) := by
  cases direction with
  | asc => exact inferInstanceAs (TransCmp cmp)
  | desc =>
    have hswap : (fun x y => Direction.desc.orient (cmp x y)) = fun x y => cmp y x := by
      funext x y
      have hyx : cmp y x = (cmp x y).swap := OrientedCmp.eq_swap
      exact hyx.symm
    rw [hswap]
    infer_instance

end Comparisons

namespace Memory

instance transCmp_compareKeys (keys : List (String × Direction)) : TransCmp (compareKeys keys) := by
  induction keys with
  | nil => exact { eq_swap := rfl, isLE_trans := fun _ _ => rfl }
  | cons key rest ih =>
    obtain ⟨field, direction⟩ := key
    have hfield : TransCmp fun x y => compareValues (valueAt x field) (valueAt y field) :=
      transCmp_comap fun item => valueAt item field
    have hfirst : TransCmp fun x y =>
        direction.orient (compareValues (valueAt x field) (valueAt y field)) :=
      direction.transCmp_orient
    exact inferInstanceAs (TransCmp (compareLex _ (compareKeys rest)))

end Memory

/-! ### Stable sorting -/

section Sorting

variable {α : Type}

/-- A list in the order of a comparison, with the elements of another list; of equal
    elements the first one there is the first one here. -/
structure StablySorted (cmp : α → α → Ordering) (xs sorted : List α) : Prop where
  perm : sorted.Perm xs
  ordered : sorted.Pairwise fun x y => (cmp x y).isLE = true
  stable : ∀ x ∈ xs, sorted.filter (fun y => cmp x y == .eq) = xs.filter fun y => cmp x y == .eq

/-- Sorting by an order is stable sorting. -/
theorem stablySorted_sort (cmp : α → α → Ordering) [TransCmp cmp] (xs : List α) :
    StablySorted cmp xs (Sorting.sort (fun x y => (cmp x y).isLE) xs) := by
  have htrans : ∀ x y z, (cmp x y).isLE = true → (cmp y z).isLE = true → (cmp x z).isLE = true :=
    fun _ _ _ => TransCmp.isLE_trans
  have htotal : ∀ x y, ((cmp x y).isLE || (cmp y x).isLE) = true := by
    intro x y
    have hswap : cmp y x = (cmp x y).swap := OrientedCmp.eq_swap
    rw [hswap]
    cases cmp x y <;> rfl
  rw [Sorting.sort_eq_mergeSort]
  have hperm := List.mergeSort_perm xs fun x y => (cmp x y).isLE
  refine ⟨hperm, List.pairwise_mergeSort htrans htotal xs, ?_⟩
  intro x _
  -- The elements equal to `x` are sorted as they stand, so sorting keeps them in this order.
  have hsorted : (xs.filter fun y => cmp x y == .eq).Pairwise fun y z => (cmp y z).isLE = true := by
    refine List.pairwise_of_forall_mem_list ?_
    intro y hy z hz
    have hxy : cmp x y = .eq := eq_of_beq (List.mem_filter.1 hy).2
    have hxz : cmp x z = .eq := eq_of_beq (List.mem_filter.1 hz).2
    rw [TransCmp.eq_trans (OrientedCmp.eq_symm hxy) hxz]
    rfl
  have hsub := (List.sublist_mergeSort htrans htotal hsorted List.filter_sublist).filter
    fun y => cmp x y == .eq
  simp only [List.filter_filter, Bool.and_self] at hsub
  exact (hsub.eq_of_length (hperm.filter _).length_eq.symm).symm

/-- What is sorted by an image has a sorted image. -/
theorem StablySorted.map {β : Type} {cmp : β → β → Ordering} {f : α → β} {xs sorted : List α}
    (h : StablySorted (fun x y => cmp (f x) (f y)) xs sorted) :
    StablySorted cmp (xs.map f) (sorted.map f) where
  perm := h.perm.map f
  ordered := List.pairwise_map.2 h.ordered
  stable := by
    intro _ hmem
    obtain ⟨x, hx, rfl⟩ := List.mem_map.1 hmem
    rw [List.filter_map, List.filter_map]
    exact congrArg (List.map f) (h.stable x hx)

end Sorting

namespace Memory

theorem stablySorted_sortedView {ι : Type} (memory : Memory ι) :
    StablySorted (fun x y => compareKeys memory.sortKeys x.value y.value) memory.view
      memory.sortedView := by
  have hcompare : TransCmp fun x y : Entry ι => compareKeys memory.sortKeys x.value y.value :=
    transCmp_comap Entry.value
  exact stablySorted_sort _ _

end Memory

end Listing
