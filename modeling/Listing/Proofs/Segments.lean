/-
  Listing/Proofs/Segments.lean
  ============================
  **A range filter cuts a segment out of the sorted list.**

  Filtering a list and sorting it stably may change places (`sortedView_retain`),
  so the sorted list after a filter is a part of the sorted list without it.
  Which part, depends on two comparisons that the code keeps apart: of a value
  with a parameter, and of a value with a value.  They agree on strings, and on
  numbers as long as the parameters are numbers too (`SameSide`).  Then what lies
  between two values in a range is in the range, and what a range filter leaves
  is one unbroken segment, whichever way the list is sorted.
-/
import Listing.Proofs.Arrangement
import Listing.Proofs.Opposites

namespace Listing

open Assembly (parcel)
open Number (Binary64)
open Source (Command perform run)
open Std (OrientedCmp TransCmp)

/-! ### Sorting what a filter leaves -/

section Sorting

variable {α : Type} {cmp : α → α → Ordering}

theorem StablySorted.filter {xs sorted : List α} (h : StablySorted cmp xs sorted) (p : α → Bool) :
    StablySorted cmp (xs.filter p) (sorted.filter p) where
  perm := h.perm.filter p
  ordered := h.ordered.filter p
  stable := by
    intro x hx
    rw [List.filter_comm, List.filter_comm _ _ xs]
    exact congrArg (List.filter p) (h.stable x (List.mem_of_mem_filter hx))

/-- Two ordered lists of the same elements are the same when equal elements stand in the same
    order in both. -/
theorem eq_of_ordered [TransCmp cmp] {xs ys : List α} (hperm : xs.Perm ys)
    (hxs : xs.Pairwise fun x y => (cmp x y).isLE = true)
    (hys : ys.Pairwise fun x y => (cmp x y).isLE = true)
    (hequal : ∀ x ∈ xs, xs.filter (fun y => cmp x y == .eq) = ys.filter fun y => cmp x y == .eq) :
    xs = ys := by
  induction xs generalizing ys with
  | nil => exact hperm.nil_eq
  | cons x xs ih =>
    cases ys with
    | nil => exact hperm.eq_nil
    | cons y ys =>
      have hself : ∀ z : α, cmp z z = .eq := fun _ => Std.ReflCmp.compare_self
      -- The first elements are equal in the order, so both are the first of the elements equal
      -- to them.
      have hxy : cmp x y = .eq := by
        rcases List.mem_cons.1 (hperm.mem_iff.1 List.mem_cons_self) with rfl | hx
        · exact hself x
        · rcases List.mem_cons.1 (hperm.mem_iff.2 List.mem_cons_self) with rfl | hy
          · exact hself y
          · exact OrientedCmp.isLE_antisymm (List.rel_of_pairwise_cons hxs hy)
              (List.rel_of_pairwise_cons hys hx)
      have hhead := hequal x List.mem_cons_self
      rw [List.filter_cons, if_pos (beq_iff_eq.2 (hself x)), List.filter_cons,
        if_pos (beq_iff_eq.2 hxy)] at hhead
      obtain ⟨rfl, -⟩ := List.cons.inj hhead
      refine congrArg (x :: ·) (ih hperm.cons_inv hxs.of_cons hys.of_cons ?_)
      intro z hz
      have hrest := hequal z (List.mem_cons_of_mem x hz)
      rw [List.filter_cons, List.filter_cons] at hrest
      split at hrest
      · exact (List.cons.inj hrest).2
      · exact hrest

/-- There is one stable sorting of a list. -/
theorem StablySorted.unique [TransCmp cmp] {xs sorted other : List α}
    (h : StablySorted cmp xs sorted) (hother : StablySorted cmp xs other) : sorted = other := by
  refine eq_of_ordered (h.perm.trans hother.perm.symm) h.ordered hother.ordered ?_
  intro x hx
  have hmem : x ∈ xs := h.perm.mem_iff.1 hx
  rw [h.stable x hmem, hother.stable x hmem]

/-- If with two elements everything between them has a property, then in an ordered list the
    elements with the property make up one segment. -/
theorem exists_segment {R : α → α → Prop} {p : α → Bool} {xs : List α} (hxs : xs.Pairwise R)
    (hbetween : ∀ x ∈ xs, ∀ y ∈ xs, ∀ z ∈ xs, R x y → R y z → p x = true → p z = true →
      p y = true) :
    ∃ before after, xs = before ++ xs.filter p ++ after ∧ ∀ x ∈ before ++ after, p x = false := by
  induction xs with
  | nil => exact ⟨[], [], rfl, fun _ hx => by cases hx⟩
  | cons x xs ih =>
    obtain ⟨before, after, hsplit, hnone⟩ := ih hxs.of_cons fun a ha b hb c hc =>
      hbetween a (List.mem_cons_of_mem x ha) b (List.mem_cons_of_mem x hb) c
        (List.mem_cons_of_mem x hc)
    cases hx : p x with
    | false =>
      refine ⟨x :: before, after, ?_, ?_⟩
      · rw [List.filter_cons_of_neg (by rw [hx]; decide), List.cons_append, List.cons_append,
          ← hsplit]
      · rw [List.cons_append, List.forall_mem_cons]
        exact ⟨hx, hnone⟩
    | true =>
      cases hfilter : xs.filter p with
      | nil =>
        refine ⟨[], xs, ?_, ?_⟩
        · rw [List.filter_cons_of_pos hx, hfilter]
          rfl
        · intro y hy
          exact Bool.eq_false_iff.2 (List.filter_eq_nil_iff.1 hfilter y hy)
      | cons z zs =>
        -- Nothing can stand between `x` and the rest of the segment.
        have hempty : before = [] := by
          rcases before with _ | ⟨y, others⟩
          · rfl
          · have hz : z ∈ xs.filter p := hfilter ▸ List.mem_cons_self
            obtain ⟨hzmem, hpz⟩ := List.mem_filter.1 hz
            have hy : y ∈ xs := by
              rw [hsplit]
              exact List.mem_append_left _ (List.mem_append_left _ List.mem_cons_self)
            have hyz : R y z := by
              have hordered := hxs.of_cons
              rw [hsplit, List.append_assoc, List.cons_append] at hordered
              refine List.rel_of_pairwise_cons hordered ?_
              exact List.mem_append_right _ (List.mem_append_left _ hz)
            have hpy : p y = true := hbetween x List.mem_cons_self y (List.mem_cons_of_mem x hy) z
              (List.mem_cons_of_mem x hzmem) (List.rel_of_pairwise_cons hxs hy) hyz hx hpz
            rw [hnone y List.mem_cons_self] at hpy
            cases hpy
        subst hempty
        refine ⟨[], after, ?_, hnone⟩
        rw [List.filter_cons_of_pos hx, List.nil_append, List.cons_append]
        exact congrArg (x :: ·) hsplit

end Sorting

/-- The operators that ask for a value in a range. -/
def Operator.ranges : List Operator := [.lt, .lte, .gt, .gte, .eq, .between]

namespace Memory

variable {ι : Type}

/-- Narrowing the view and sorting it may change places. -/
theorem sortedView_retain (memory : Memory ι) (test : Json → Bool) :
    (memory.retain test).sortedView = memory.sortedView.filter fun entry => test entry.value := by
  have hcompare : TransCmp fun x y : Entry ι => compareKeys memory.sortKeys x.value y.value :=
    transCmp_comap Entry.value
  have hretained : StablySorted (fun x y => compareKeys memory.sortKeys x.value y.value)
      (memory.view.filter fun entry => test entry.value) (memory.retain test).sortedView :=
    (memory.retain test).stablySorted_sortedView
  exact hretained.unique (memory.stablySorted_sortedView.filter _)

/-! ### Values on one side of a parameter -/

/-- Comparing with a parameter goes along with comparing values: what comes before a value below
    the parameter is below it, and what comes behind a value above it is above it. -/
def SameSide (param : String) (v w : Json) : Prop :=
  (comparePresent v w).isLE = true →
    (compareParam w param = .lt → compareParam v param = .lt) ∧
      (compareParam v param = .gt → compareParam w param = .gt)

/-- The values of a field are strings, or they are numbers and the parameters are the texts of
    numbers.  Nothing is said of items that have no value there. -/
def Uniform (memory : Memory ι) (field : String) (params : List String) : Prop :=
  (∀ entry ∈ memory.view, ∀ v ∈ valueAt entry.value field, ∃ s, v = .string s) ∨
    (∀ entry ∈ memory.view, ∀ v ∈ valueAt entry.value field, ∃ n, v = .number n) ∧
      ∀ param ∈ params, ∃ x, Binary64.ofText? param.toList = some x

theorem sides_of_isLE {α : Type} {cmp : α → α → Ordering} [TransCmp cmp] {a b c : α}
    (h : (cmp a b).isLE = true) :
    (cmp b c = .lt → cmp a c = .lt) ∧ (cmp a c = .gt → cmp b c = .gt) := by
  constructor
  · exact TransCmp.lt_of_isLE_of_lt h
  · intro hgt
    exact OrientedCmp.gt_of_lt (TransCmp.lt_of_lt_of_isLE (OrientedCmp.lt_of_gt hgt) h)

theorem sameSide_string (param s t : String) : SameSide param (.string s) (.string t) := by
  have hparam : ∀ s : String, compareParam (.string s) param = compare s param := fun _ => rfl
  intro hle
  rw [hparam, hparam]
  exact sides_of_isLE hle

theorem sameSide_number {param : String} {x : Binary64}
    (h : Binary64.ofText? param.toList = some x) (m n : JsonNumber) :
    SameSide param (.number m) (.number n) := by
  have hparam : ∀ k : JsonNumber,
      compareParam (.number k) param = compare k.toBinary64.place x.place := by
    intro k
    simp only [compareParam, h, Binary64.totalOrder]
  intro hle
  rw [hparam, hparam]
  exact sides_of_isLE hle

/-- The values of a uniform field stand on the sides of each parameter in their own order. -/
theorem Uniform.sameSide {memory : Memory ι} {field : String} {params : List String}
    (h : memory.Uniform field params) {param : String} (hparam : param ∈ params)
    {first second : Entry ι} (hfirst : first ∈ memory.view) (hsecond : second ∈ memory.view)
    {v w : Json} (hv : valueAt first.value field = some v)
    (hw : valueAt second.value field = some w) : SameSide param v w := by
  rcases h with hstrings | ⟨hnumbers, hparams⟩
  · obtain ⟨s, rfl⟩ := hstrings first hfirst v hv
    obtain ⟨t, rfl⟩ := hstrings second hsecond w hw
    exact sameSide_string param s t
  · obtain ⟨m, rfl⟩ := hnumbers first hfirst v hv
    obtain ⟨n, rfl⟩ := hnumbers second hsecond w hw
    obtain ⟨x, hx⟩ := hparams param hparam
    exact sameSide_number hx m n

/-! ### Ranges -/

/-- Between two values that a range operator asks for there are no others. -/
theorem asks_of_between {op : Operator} (hop : op ∈ Operator.ranges) {params : List String}
    {u v w : Json} (huv : (comparePresent u v).isLE = true) (hvw : (comparePresent v w).isLE = true)
    (hlow : ∀ param ∈ params, SameSide param u v) (hhigh : ∀ param ∈ params, SameSide param v w)
    (hu : Asks op params (some u)) (hw : Asks op params (some w)) : Asks op params (some v) := by
  have hlt : ∀ param ∈ params, compareParam w param = .lt → compareParam v param = .lt :=
    fun param hmem => (hhigh param hmem hvw).1
  have hle : ∀ param ∈ params, compareParam w param ≠ .gt → compareParam v param ≠ .gt :=
    fun param hmem => mt (hhigh param hmem hvw).2
  have hgt : ∀ param ∈ params, compareParam u param = .gt → compareParam v param = .gt :=
    fun param hmem => (hlow param hmem huv).2
  have hge : ∀ param ∈ params, compareParam u param ≠ .lt → compareParam v param ≠ .lt :=
    fun param hmem => mt (hlow param hmem huv).1
  have hop' := hop
  simp only [Operator.ranges, List.mem_cons, List.not_mem_nil, or_false] at hop'
  obtain ⟨param, rest, rfl⟩ : ∃ param rest, params = param :: rest := by
    refine List.exists_cons_of_ne_nil ?_
    rintro rfl
    rcases hop' with rfl | rfl | rfl | rfl | rfl | rfl <;> cases hu
  have hparam : param ∈ param :: rest := List.mem_cons_self
  rcases hop' with rfl | rfl | rfl | rfl | rfl | rfl
  · simp only [Asks, Option.mem_some_iff, exists_eq_left'] at hw ⊢
    exact hlt param hparam hw
  · simp only [Asks, Option.mem_some_iff, exists_eq_left'] at hw ⊢
    exact hle param hparam hw
  · simp only [Asks, Option.mem_some_iff, exists_eq_left'] at hu ⊢
    exact hgt param hparam hu
  · simp only [Asks, Option.mem_some_iff, exists_eq_left'] at hu ⊢
    exact hge param hparam hu
  · simp only [Asks, Option.mem_some_iff, exists_eq_left'] at hu hw ⊢
    have hnotLess := hge param hparam (by rw [hu]; decide)
    have hnotGreater := hle param hparam (by rw [hw]; decide)
    cases hv : compareParam v param with
    | lt => exact absurd hv hnotLess
    | eq => rfl
    | gt => exact absurd hv hnotGreater
  · rcases rest with _ | ⟨high, rest⟩
    · cases hu
    · simp only [Asks, Option.mem_some_iff, exists_eq_left'] at hu hw ⊢
      exact ⟨hge param hparam hu.1, hle high (List.mem_cons_of_mem _ List.mem_cons_self) hw.2⟩

/-- A range operator asks for a present value. -/
theorem exists_of_asks {op : Operator} (hop : op ∈ Operator.ranges) {params : List String}
    {value : Option Json} (h : Asks op params value) : ∃ v, value = some v := by
  cases value with
  | some v => exact ⟨v, rfl⟩
  | none =>
    simp only [Operator.ranges, List.mem_cons, List.not_mem_nil, or_false] at hop
    rcases hop with rfl | rfl | rfl | rfl | rfl | rfl <;>
      rcases params with _ | ⟨low, _ | ⟨high, rest⟩⟩ <;> simp at h

section Segments

variable {memory : Memory ι} {field : String} {params : List String} {op : Operator}

/-- Between two entries that a range operator asks for, in the order of the field's values, there
    are no others. -/
theorem Uniform.asks_of_between (h : memory.Uniform field params) (hop : op ∈ Operator.ranges)
    {x y z : Entry ι} (hx : x ∈ memory.view) (hy : y ∈ memory.view) (hz : z ∈ memory.view)
    (hxy : (compareValues (valueAt x.value field) (valueAt y.value field)).isLE = true)
    (hyz : (compareValues (valueAt y.value field) (valueAt z.value field)).isLE = true)
    (hasksx : Asks op params (valueAt x.value field))
    (hasksz : Asks op params (valueAt z.value field)) : Asks op params (valueAt y.value field) := by
  obtain ⟨u, hu⟩ := exists_of_asks hop hasksx
  obtain ⟨w, hw⟩ := exists_of_asks hop hasksz
  rw [hu] at hxy hasksx
  rw [hw] at hyz hasksz
  cases hv : valueAt y.value field with
  | none =>
    rw [hv] at hxy
    cases hxy
  | some v =>
    rw [hv] at hxy hyz
    exact Memory.asks_of_between hop hxy hyz (fun _ hmem => h.sameSide hmem hx hy hu hv)
      (fun _ hmem => h.sameSide hmem hy hz hv hw) hasksx hasksz

/-- What a range operator keeps is a segment of a view that is sorted by the field first. -/
theorem Uniform.exists_segment (h : memory.Uniform field params) (hop : op ∈ Operator.ranges)
    {direction : Direction} {rest : List (String × Direction)}
    (hkeys : memory.sortKeys = (field, direction) :: rest) {holds : Predicate}
    (hholds : predicate op params = .ok holds) :
    ∃ before after, memory.sortedView
        = before ++ (memory.retain fun item => holds (valueAt item field)).sortedView ++ after ∧
      ∀ entry ∈ before ++ after, ¬ Asks op params (valueAt entry.value field) := by
  have hasks : ∀ entry : Entry ι, holds (valueAt entry.value field) = true ↔
      Asks op params (valueAt entry.value field) := fun _ => predicate_iff_asks hholds _
  rw [sortedView_retain]
  obtain ⟨before, after, hsplit, hnone⟩ := Listing.exists_segment
    (p := fun entry => holds (valueAt entry.value field)) memory.stablySorted_sortedView.ordered (by
      intro x hx y hy z hz hxy hyz hpx hpz
      rw [hasks] at hpx hpz ⊢
      rw [mem_sortedView] at hx hy hz
      rw [hkeys] at hxy hyz
      have hxy := Ordering.isLE_left_of_isLE_then hxy
      have hyz := Ordering.isLE_left_of_isLE_then hyz
      cases direction with
      | asc => exact h.asks_of_between hop hx hy hz hxy hyz hpx hpz
      | desc =>
        have hswap : ∀ v w : Option Json,
            Direction.desc.orient (compareValues v w) = compareValues w v :=
          fun _ _ => OrientedCmp.eq_swap.symm
        rw [hswap] at hxy hyz
        exact h.asks_of_between hop hz hy hx hyz hxy hpz hpx)
  refine ⟨before, after, hsplit, ?_⟩
  intro entry hmem
  rw [← hasks, Bool.not_eq_true]
  exact hnone entry hmem

end Segments

/-! ### Filtered lists and their pages -/

/-- A page of a segment is a page of the whole. -/
theorem items_page_of_segment {whole part : Memory ι} {before after : List (Entry ι)}
    (h : whole.sortedView = before ++ part.sortedView ++ after) (limit offset : Nat) :
    (part.page limit offset).items
      = (whole.page (min limit (part.view.length - offset)) (before.length + offset)).items := by
  have hlength : part.sortedView.length = part.view.length :=
    part.stablySorted_sortedView.perm.length_eq
  have hdrop : whole.sortedView.drop (before.length + offset)
      = (part.sortedView ++ after).drop offset := by
    rw [h, List.append_assoc, ← List.drop_drop, List.drop_left]
  have htake : ((part.sortedView ++ after).drop offset).take (min limit (part.view.length - offset))
      = (part.sortedView.drop offset).take limit := by
    rcases Nat.le_total offset part.view.length with hinside | hbehind
    · rw [List.drop_append_of_le_length (hlength ▸ hinside),
        List.take_append_of_le_length (by rw [List.length_drop, hlength]; exact Nat.min_le_right _ _),
        ← hlength, ← List.length_drop, ← List.take_eq_take_min]
    · rw [Nat.sub_eq_zero_of_le hbehind, Nat.min_zero, List.take_zero,
        List.drop_eq_nil_of_le (hlength ▸ hbehind), List.take_nil]
  simp only [page, hdrop, htake]

/-- **A range filter cuts a segment out of the sorted list.**  Where the values of a field are all
    strings, or all numbers like the parameters, a list that is filtered by a range and sorted by
    the field is one unbroken part of the list that is sorted only, in either direction: with it
    stand the entries that the operator asks for, before and behind it the others.  Its pages are
    pages of the whole list. -/
theorem range_filters_cut_segments {memory : Memory ι} (hunsorted : memory.sortKeys = [])
    {field : String} {params : List String} (huniform : memory.Uniform field params)
    {op : Operator} (hop : op ∈ Operator.ranges) (kind : ValueKind) (direction : Direction) :
    let whole := run [.sort field direction] memory
    let part := run [.filter field kind op params, .sort field direction] memory
    ∃ before after, whole.sortedView = before ++ part.sortedView ++ after ∧
      (op.least ≤ params.length →
        (∀ entry ∈ part.sortedView, Asks op params (valueAt entry.value field)) ∧
          ∀ entry ∈ before ++ after, ¬ Asks op params (valueAt entry.value field)) ∧
      ∀ limit offset, (part.page limit offset).items
        = (whole.page (min limit (part.view.length - offset)) (before.length + offset)).items := by
  intro whole part
  have hkeys : whole.sortKeys = [(field, direction)] := by
    change memory.sortKeys ++ [(field, direction)] = _
    rw [hunsorted, List.nil_append]
  cases hpredicate : predicate op params with
  | ok holds =>
    have hpart : part = whole.retain fun item => holds (valueAt item field) := by
      simp only [part, whole, run, List.foldl_cons, List.foldl_nil, perform_filter_ok hpredicate,
        perform_sort, retain]
    have hwhole : whole.Uniform field params := huniform
    obtain ⟨before, after, hsplit, hothers⟩ := hwhole.exists_segment hop hkeys hpredicate
    rw [← hpart] at hsplit
    refine ⟨before, after, hsplit, fun _ => ⟨?_, hothers⟩, items_page_of_segment hsplit⟩
    intro entry hmem
    rw [hpart, sortedView_retain, List.mem_filter] at hmem
    exact (predicate_iff_asks hpredicate _).1 hmem.2
  | error error =>
    -- A filter that lacks a parameter is refused and leaves the whole list.
    have hpart : part = whole := by
      simp only [part, whole, run, List.foldl_cons, List.foldl_nil,
        perform_filter_error hpredicate]
    have hsplit : whole.sortedView = [] ++ part.sortedView ++ [] := by
      rw [hpart, List.nil_append, List.append_nil]
    refine ⟨[], [], hsplit, ?_, items_page_of_segment hsplit⟩
    intro hparams
    obtain ⟨holds, hholds⟩ := exists_predicate_iff.2 hparams
    cases hpredicate.symm.trans hholds

/-- Parcels in descending order of their sizes, a parcel without a size behind them; those from 2
    to 5 stand together, and the two of the same size in the order of the source. -/
theorem middling_parcels_stand_together :
    let memory : Memory Row := ofEntries (numbered (
      [parcel 4 "red", ⟨.object [], none, none, none⟩, parcel 9 "red", parcel 2 "blue",
        parcel 4 "blue", parcel 1 "red"].map fun row => (row, row.value)))
    let whole := run [.sort "size" .desc] memory
    let part := run [.filter "size" .integer .between ["2.0", "5"], .sort "size" .desc] memory
    whole.sortedView.map Entry.position = [2, 0, 4, 3, 5, 1] ∧
      part.sortedView.map Entry.position = [0, 4, 3] ∧
      ∃ before after, whole.sortedView = before ++ part.sortedView ++ after := by
  intro memory whole part
  refine ⟨by decide +kernel, by decide +kernel, ?_⟩
  have huniform : memory.Uniform "size" ["2.0", "5"] := by
    have hnone : ∀ v, v ∉ valueAt (.object []) "size" := fun v hv => by cases hv
    have hsome : ∀ size colour, ∀ v ∈ valueAt (parcel size colour).value "size",
        v = .number (.integer size) := fun size colour v hv => (Option.some.inj hv).symm
    refine .inr ⟨?_, ?_⟩
    · refine List.forall_mem_cons.2 ⟨fun v hv => ⟨_, hsome 4 "red" v hv⟩, ?_⟩
      refine List.forall_mem_cons.2 ⟨fun v hv => absurd hv (hnone v), ?_⟩
      refine List.forall_mem_cons.2 ⟨fun v hv => ⟨_, hsome 9 "red" v hv⟩, ?_⟩
      refine List.forall_mem_cons.2 ⟨fun v hv => ⟨_, hsome 2 "blue" v hv⟩, ?_⟩
      refine List.forall_mem_cons.2 ⟨fun v hv => ⟨_, hsome 4 "blue" v hv⟩, ?_⟩
      exact List.forall_mem_cons.2 ⟨fun v hv => ⟨_, hsome 1 "red" v hv⟩, fun _ => nofun⟩
    · exact List.forall_mem_cons.2 ⟨⟨_, rfl⟩, List.forall_mem_cons.2 ⟨⟨_, rfl⟩, fun _ => nofun⟩⟩
  have hbetween : Operator.between ∈ Operator.ranges := by decide
  obtain ⟨before, after, hsplit, -⟩ :=
    range_filters_cut_segments rfl huniform hbetween .integer .desc
  exact ⟨before, after, hsplit⟩

end Memory

end Listing
