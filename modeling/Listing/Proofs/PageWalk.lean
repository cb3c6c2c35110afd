/-
  Listing/Proofs/PageWalk.lean
  ============================
  **Walking through a listing page by page.**

  A client that fetches a page and follows the link to the next one, until there
  is none, makes a walk (`Walk`).  On a source in memory the walk from the start
  comes to an end, and its pages put together are the whole sorted view
  (`walk_shows_everything`).  The induction is on the items that lie behind the
  offset of the walk: every step but the last takes a full page of them.
-/
import Listing.Proofs.Arrangement
import Listing.Proofs.Narrowing

namespace Listing

open Text (maxUnsigned)

variable {σ ι : Type}

/-! ### Walks -/

/-- A page with the offset at which it was fetched. -/
structure Visit (ι : Type) where
  offset : Nat
  page : Page ι

/-- The pages that are seen from an offset on by following the links to the next page. -/
inductive Walk [Source σ ι] (limit : Nat) : (offset : Nat) → σ → List (Visit ι) → Prop where
  | last {offset : Nat} {source : σ} {page : Page ι}
      (fetched : (Source.fetch limit offset source).result = .ok page)
      (next : (Links.ofPage page.total limit offset).next = none) :
      Walk limit offset source [⟨offset, page⟩]
  | more {offset following : Nat} {source : σ} {page : Page ι} {rest : List (Visit ι)}
      (fetched : (Source.fetch limit offset source).result = .ok page)
      (next : (Links.ofPage page.total limit offset).next = some following)
      (walk : Walk limit following (Source.fetch limit offset source).state rest) :
      Walk limit offset source (⟨offset, page⟩ :: rest)

/-- There is at most one walk from an offset. -/
theorem Walk.unique [Source σ ι] {limit offset : Nat} {source : σ} {visits others : List (Visit ι)}
    (h : Walk limit offset source visits) (hother : Walk limit offset source others) :
    others = visits := by
  induction h generalizing others with
  | last fetched next =>
    cases hother with
    | last again _ =>
      cases fetched.symm.trans again
      rfl
    | more again following _ =>
      cases fetched.symm.trans again
      cases next.symm.trans following
  | more fetched next _ ih =>
    cases hother with
    | last again following =>
      cases fetched.symm.trans again
      cases next.symm.trans following
    | more again following walk =>
      cases fetched.symm.trans again
      cases next.symm.trans following
      rw [ih walk]

/-! ### Links to the next and the last page -/

namespace Links

/-- The next page starts one limit behind this one, if any item lies there. -/
theorem next_ofPage {total limit : Nat} (htotal : total ≤ maxUnsigned) (hlimit : 1 ≤ limit)
    (offset : Nat) :
    (ofPage total limit offset).next
      = if offset + limit < total then some (offset + limit) else .none := by
  have hstep : max limit 1 = limit := Nat.max_eq_left hlimit
  have hiff : saturatingAdd offset limit < total ↔ offset + limit < total := by
    unfold saturatingAdd
    omega
  simp only [ofPage, hstep, hiff]

theorem last_ofPage {total limit : Nat} (hlimit : 1 ≤ limit) (hseveral : 1 < pageCount total limit)
    (offset : Nat) : (ofPage total limit offset).last = some ((total - 1) / limit * limit) := by
  have hstep : max limit 1 = limit := Nat.max_eq_left hlimit
  simp only [ofPage, hstep, hseveral, if_true]

end Links

/-! ### Counting pages -/

/-- There are more pages than `n` as long as an item lies behind `n` full ones. -/
theorem lt_pageCount_iff {count limit n : Nat} (hlimit : 1 ≤ limit) :
    n < pageCount count limit ↔ n * limit < count := by
  rw [← Nat.succ_le_iff, pageCount, Nat.le_div_iff_mul_le hlimit, Nat.succ_mul]
  omega

theorem one_le_pageCount {count limit : Nat} (hlimit : 1 ≤ limit) (h : 0 < count) :
    1 ≤ pageCount count limit :=
  (lt_pageCount_iff hlimit).2 (by rwa [Nat.zero_mul])

theorem one_lt_pageCount_iff {count limit : Nat} (hlimit : 1 ≤ limit) :
    1 < pageCount count limit ↔ limit < count := by
  rw [lt_pageCount_iff hlimit, Nat.one_mul]

theorem pageCount_le_one {count limit : Nat} (hlimit : 1 ≤ limit) (h : count ≤ limit) :
    pageCount count limit ≤ 1 :=
  Nat.not_lt.1 fun hseveral => Nat.not_lt.2 h ((one_lt_pageCount_iff hlimit).1 hseveral)

theorem pageCount_of_lt {count limit : Nat} (hlimit : 1 ≤ limit) (h : limit < count) :
    pageCount count limit = pageCount (count - limit) limit + 1 := by
  unfold pageCount
  rw [← Nat.add_div_right _ hlimit]
  congr 1
  omega

/-- One page begins at every multiple of the limit below the count. -/
theorem pageCount_eq_succ {count limit : Nat} (hlimit : 1 ≤ limit) (h : 0 < count) :
    pageCount count limit = (count - 1) / limit + 1 := by
  unfold pageCount
  rw [← Nat.add_div_right _ hlimit]
  congr 1
  omega

namespace Memory

/-! ### The walk through a source in memory -/

/-- What a walk from an offset shows of the items in their order. -/
structure Covers (limit offset : Nat) (items : List ι) (visits : List (Visit ι)) : Prop where
  items_eq : visits.flatMap (fun visit => visit.page.items) = items.drop offset
  length_eq : visits.length = max 1 (pageCount (items.length - offset) limit)
  full : ∀ visit ∈ visits.dropLast, visit.page.items.length = limit
  final : ∀ visit ∈ visits.getLast?, visit.offset = offset + (visits.length - 1) * limit

/-- The last page shows all that is left. -/
theorem covers_last {limit offset : Nat} (hlimit : 1 ≤ limit) {items : List ι} {page : Page ι}
    (hpage : page.items = (items.drop offset).take limit) (h : items.length ≤ offset + limit) :
    Covers limit offset items [⟨offset, page⟩] where
  items_eq := by
    have hrest : (items.drop offset).length ≤ limit := by
      rw [List.length_drop]
      omega
    rw [List.flatMap_singleton, hpage, List.take_of_length_le hrest]
  length_eq := (Nat.max_eq_left (pageCount_le_one hlimit (by omega))).symm
  full := by
    intro visit hmem
    cases hmem
  final := by
    rintro visit ⟨⟩
    simp

/-- A page with items behind it is full, and the walk goes on behind it. -/
theorem Covers.cons {limit offset : Nat} (hlimit : 1 ≤ limit) {items : List ι} {page : Page ι}
    {visits : List (Visit ι)} (hpage : page.items = (items.drop offset).take limit)
    (h : offset + limit < items.length) (hrest : Covers limit (offset + limit) items visits) :
    Covers limit offset items (⟨offset, page⟩ :: visits) := by
  have hmany : 1 ≤ pageCount (items.length - (offset + limit)) limit :=
    one_le_pageCount hlimit (by omega)
  have hlength : visits.length = pageCount (items.length - (offset + limit)) limit :=
    hrest.length_eq.trans (Nat.max_eq_right hmany)
  have hne : visits ≠ [] := by
    rw [← List.length_pos_iff]
    omega
  constructor
  · rw [List.flatMap_cons, hrest.items_eq, hpage, ← List.drop_drop, List.take_append_drop]
  · have hcount : pageCount (items.length - offset) limit
        = pageCount (items.length - offset - limit) limit + 1 :=
      pageCount_of_lt hlimit (by omega)
    rw [Nat.sub_sub, ← hlength] at hcount
    rw [List.length_cons, hcount]
    omega
  · intro visit hmem
    rw [List.dropLast_cons_of_ne_nil hne] at hmem
    rcases List.mem_cons.1 hmem with rfl | hmem
    · rw [hpage, List.length_take, List.length_drop]
      omega
    · exact hrest.full visit hmem
  · intro visit hmem
    rw [List.getLast?_cons_of_ne_nil hne] at hmem
    have hvisits : visits.length = visits.length - 1 + 1 := by omega
    rw [hrest.final visit hmem, List.length_cons, Nat.add_sub_cancel, hvisits, Nat.add_sub_cancel,
      Nat.succ_mul]
    omega

theorem length_map_sortedView (memory : Memory ι) :
    (memory.sortedView.map Entry.item).length = memory.view.length := by
  rw [List.length_map]
  exact memory.stablySorted_sortedView.perm.length_eq

theorem items_page (memory : Memory ι) (limit offset : Nat) :
    (memory.page limit offset).items
      = ((memory.sortedView.map Entry.item).drop offset).take limit := by
  rw [← List.map_drop, ← List.map_take]
  rfl

/-- From any offset the walk comes to an end and shows what lies behind the offset. -/
theorem exists_walk {limit : Nat} (hlimit : 1 ≤ limit) {memory : Memory ι}
    (hsize : memory.view.length ≤ maxUnsigned) (offset : Nat) :
    ∃ visits, Walk limit offset memory visits ∧
      Covers limit offset (memory.sortedView.map Entry.item) visits := by
  have hlength := length_map_sortedView memory
  -- every step but the last leaves fewer items behind the offset
  induction hleft : memory.view.length - offset using Nat.strongRecOn generalizing offset with
  | ind left ih =>
    have hpage := items_page memory limit offset
    have hnext := Links.next_ofPage hsize hlimit offset
    by_cases h : offset + limit < memory.view.length
    · rw [if_pos h] at hnext
      obtain ⟨visits, hwalk, hcovers⟩ := ih _ (by omega) (offset + limit) rfl
      exact ⟨_, .more rfl hnext hwalk, hcovers.cons hlimit hpage (by omega)⟩
    · rw [if_neg h] at hnext
      exact ⟨_, .last rfl hnext, covers_last hlimit hpage (by omega)⟩

theorem length_view_le (rows : List (ι × Json)) (commands : List Source.Command) :
    (Source.run commands (⟨numbered rows, numbered rows, []⟩ : Memory ι)).view.length
      ≤ rows.length := by
  have hrows : (numbered rows).length = rows.length := by
    rw [numbered, List.length_map, List.length_zipIdx]
  rw [(narrowed_run _ commands).view_eq, ← hrows]
  exact List.length_filter_le _ _

/-- The last page of several starts at the offset of the link to the last page. -/
theorem Covers.last_eq {limit : Nat} (hlimit : 1 ≤ limit) {items : List ι} {visits : List (Visit ι)}
    (h : Covers limit 0 items visits) (hseveral : 1 < visits.length) {visit : Visit ι}
    (hvisit : visit ∈ visits.getLast?) (offset : Nat) :
    (Links.ofPage items.length limit offset).last = some visit.offset := by
  have hlength := h.length_eq
  rw [Nat.sub_zero] at hlength
  have hcount : 1 < pageCount items.length limit := by omega
  have hpos : 0 < items.length := by
    rw [Nat.pos_iff_ne_zero]
    intro hzero
    have hone : pageCount items.length limit ≤ 1 := pageCount_le_one hlimit (by omega)
    omega
  have hsucc := pageCount_eq_succ hlimit hpos
  have hpages : visits.length - 1 = (items.length - 1) / limit := by omega
  rw [Links.last_ofPage hlimit hcount, h.final visit hvisit, hpages, Nat.zero_add]

/-- **Paging neither loses nor repeats an item.**  Whatever was filtered and sorted before, the
    walk from the start comes to an end and shows the whole sorted view, on as many pages as
    the total needs, all but the last of them full; the last one is where the link to the last
    page leads.  A list in memory has no more items than a word counts. -/
theorem walk_shows_everything [Representable ι] {rows : List (ι × Json)}
    (hrows : ∀ row ∈ rows, Representable.serialise row.1 = .ok row.2)
    (hsize : rows.length ≤ maxUnsigned) {limit : Nat} (hlimit : 1 ≤ limit)
    (commands : List Source.Command) :
    ∃ memory, ofItems (rows.map Prod.fst) = .ok memory ∧
      let current := Source.run commands memory
      let total := current.view.length
      Arranged current.sortKeys current.view current.sortedView ∧
      (current.sortedView.map Entry.position).Nodup ∧
      ∃ visits, Walk limit 0 current visits ∧
        (∀ others, Walk limit 0 current others → others = visits) ∧
        visits.flatMap (fun visit => visit.page.items) = current.sortedView.map Entry.item ∧
        visits.length = max 1 (total ⌈/⌉ limit) ∧
        (∀ visit ∈ visits.dropLast, visit.page.items.length = limit) ∧
        (1 < visits.length → ∀ visit ∈ visits.getLast?, ∀ offset,
          (Links.ofPage total limit offset).last = some visit.offset) := by
  refine ⟨_, ofItems_eq_numbered hrows, ?_⟩
  intro current total
  have hsorted := current.stablySorted_sortedView
  have hlength := length_map_sortedView current
  have hview : total ≤ maxUnsigned := (length_view_le rows commands).trans hsize
  obtain ⟨visits, hwalk, hcovers⟩ := exists_walk hlimit hview 0
  refine ⟨arranged_of_stablySorted hsorted, ?_, visits, hwalk, fun _ => hwalk.unique, ?_, ?_,
    hcovers.full, ?_⟩
  · have hincreasing : current.view.Pairwise fun x y => x.position < y.position :=
      (narrowed_run ⟨numbered rows, numbered rows, []⟩ commands).represents.increasing
    have hnodup : (current.view.map Entry.position).Nodup :=
      (List.pairwise_map.2 hincreasing).imp Nat.ne_of_lt
    exact (hsorted.perm.map Entry.position).nodup_iff.2 hnodup
  · exact hcovers.items_eq
  · rw [hcovers.length_eq, hlength, Assembly.pageCount_eq_ceilDiv]
    rfl
  · intro hseveral visit hvisit offset
    rw [← hcovers.last_eq hlimit hseveral hvisit offset, hlength]

/-- Three parcels, the smallest first, on pages of two. -/
theorem parcels_walked :
    ∃ memory, ofItems (parcelRows.map Prod.fst) = .ok memory ∧
      let current := Source.run [.sort "size" .asc] memory
      ∃ visits, Walk 2 0 current visits ∧ visits.length = 2 ∧
        visits.flatMap (fun visit => visit.page.items) = current.sortedView.map Entry.item ∧
        current.sortedView.map Entry.position = [2, 0, 1] := by
  obtain ⟨memory, hmemory, -, -, visits, hwalk, -, hitems, hlength, -, -⟩ :=
    walk_shows_everything serialise_parcelRows (by decide) (show 1 ≤ 2 by decide)
      [.sort "size" .asc]
  cases hmemory.symm.trans (ofItems_eq_numbered serialise_parcelRows)
  exact ⟨_, hmemory, visits, hwalk, hlength, hitems, by decide +kernel⟩

end Memory

end Listing
