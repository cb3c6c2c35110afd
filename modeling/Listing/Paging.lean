/-
  Listing/Paging.lean
  ===================
  **Page windows and the offsets of navigation links.**

  A page is the window `[offset, offset + limit)` of a listing.  A request names
  it by limit and offset or by page number and page size; a window is then
  resolved from whatever the request names.  All numbers are unsigned 64-bit
  words: a product or sum that does not fit stops at the largest word.
-/
import Listing.Text.Numeral

namespace Listing

open Text (maxSigned maxUnsigned)

/-! ### Arithmetic that stops at the largest word -/

/-- A product, at most the largest word. -/
def saturatingMul (a b : Nat) : Nat := min (a * b) maxUnsigned

/-- A sum, at most the largest word. -/
def saturatingAdd (a b : Nat) : Nat := min (a + b) maxUnsigned

/-- How many pages of `limit` items hold `total` items. -/
def pageCount (total limit : Nat) : Nat := (total + limit - 1) / limit

/-! ### Windows -/

/-- The largest offset that a source is asked for; databases bind offsets as
    signed words. -/
def maxOffset : Nat := maxSigned

/-- One page: at most `limit` items from position `offset` on. -/
structure Window where
  limit : Nat
  offset : Nat
deriving DecidableEq, Repr

structure PageRequest where
  limit : Option Nat
  offset : Option Nat
  page : Option Nat
  pageSize : Option Nat
deriving DecidableEq, Repr

/-- The window that a request asks for.  A limit wins over a page size, an offset
    over a page number; pages count from 0 in steps of the limit in force.  The
    limit is at least 1 and the offset at most `maxOffset`, where every page is
    empty anyway. -/
def PageRequest.window (request : PageRequest) (defaultLimit : Nat) : Window :=
  let limit := max 1 ((request.limit.or request.pageSize).getD defaultLimit)
  let offset := request.offset.or (request.page.map fun page => saturatingMul page limit)
  { limit := limit, offset := min maxOffset (offset.getD 0) }

theorem PageRequest.limit_window_pos (request : PageRequest) (d : Nat) :
    0 < (request.window d).limit := by
  simp only [window]
  omega

/-! ### Links -/

/-- The places that the navigation links of a page lead to; a link that would
    lead nowhere is missing.  `α` is an offset, or the address made from it. -/
structure Links (α : Type) where
  first : Option α
  prev : Option α
  next : Option α
  last : Option α
deriving DecidableEq, Repr

namespace Links

def none {α : Type} : Links α := ⟨.none, .none, .none, .none⟩

def isEmpty {α : Type} (links : Links α) : Bool :=
  links.first.isNone && links.prev.isNone && links.next.isNone && links.last.isNone

def map {α β : Type} (f : α → β) (links : Links α) : Links β :=
  ⟨links.first.map f, links.prev.map f, links.next.map f, links.last.map f⟩

/-- The link offsets of the page at `offset`.  First and last exist when there is
    more than one page; the last page starts at the greatest multiple of the limit
    below the total.  Previous exists unless the page starts at 0, and next while
    items remain behind the page. -/
def ofPage (total limit offset : Nat) : Links Nat :=
  let step := max limit 1
  let several := 1 < pageCount total step
  { first := if several then some 0 else .none
    prev := if 0 < offset then some (offset - step) else .none
    next := if saturatingAdd offset step < total then some (offset + step) else .none
    last := if several then some ((total - 1) / step * step) else .none }

end Links

end Listing
