/-
  Listing/Memory/Source.lean
  ==========================
  **A source in memory.**

  Every item is turned into JSON once.  The entries never change; each filter
  narrows the *view*, the entries that pass every filter so far, in their given
  order.  Sorting happens when a page is fetched and is stable.
-/
import Listing.Item
import Listing.Memory.Predicate
import Listing.Sorting
import Listing.Source

namespace Listing

/-- An item with its JSON form and its place in the list that it came from. -/
structure Entry (ι : Type) where
  position : Nat
  item : ι
  value : Json

/-- A source in memory: all entries, the view, and the sort keys, the primary one
    first. -/
structure Memory (ι : Type) where
  entries : List (Entry ι)
  view : List (Entry ι)
  sortKeys : List (String × Direction)

namespace Memory

variable {ι : Type}

/-! ### Making a source -/

def entry [Representable ι] (item : ι) (position : Nat) : Except Error (Entry ι) :=
  match Representable.serialise item with
  | .ok value => .ok ⟨position, item, value⟩
  | .error refusal => .error (.internal .prepareItems (some (.stated refusal)))

/-- A source of the given items.  It cannot be made when an item refuses to be
    turned into JSON. -/
def ofItems [Representable ι] (items : List ι) : Except Error (Memory ι) :=
  (items.zipIdx.mapM fun (pair : ι × Nat) => entry pair.1 pair.2).map fun entries =>
    ⟨entries, entries, []⟩

/-! ### Narrowing and sorting -/

def retain (test : Json → Bool) (memory : Memory ι) : Memory ι :=
  { memory with view := memory.view.filter fun entry => test entry.value }

/-- Compare two values by sort keys: the first key on which they differ decides,
    in its direction. -/
def compareKeys : List (String × Direction) → Json → Json → Ordering
  | [], _, _ => .eq
  | (field, direction) :: rest, x, y =>
    (direction.orient (compareValues (valueAt x field) (valueAt y field))).then
      (compareKeys rest x y)

/-- The view in the order of the sort keys; entries equal on every key keep their
    order. -/
def sortedView (memory : Memory ι) : List (Entry ι) :=
  Sorting.sort (fun x y => (compareKeys memory.sortKeys x.value y.value).isLE) memory.view

/-! ### The source -/

def addFilter (field : String) (op : Operator) (params : List String) :
    Action (Memory ι) Unit := fun memory =>
  match predicate op params with
  | .ok holds => ⟨memory.retain fun value => holds (valueAt value field), [], .ok ()⟩
  | .error error => ⟨memory, [], .error error⟩

def addSort (field : String) (direction : Direction) : Action (Memory ι) Unit := fun memory =>
  ⟨{ memory with sortKeys := memory.sortKeys ++ [(field, direction)] }, [], .ok ()⟩

def page (memory : Memory ι) (limit offset : Nat) : Page ι :=
  { items := ((memory.sortedView.drop offset).take limit).map Entry.item
    total := memory.view.length }

def fetch (limit offset : Nat) : Action (Memory ι) (Page ι) := fun memory =>
  let page := memory.page limit offset
  ⟨memory, [.fetched .memory page.total offset limit page.items.length], .ok page⟩

instance : Source (Memory ι) ι where
  backend := "in-memory"
  addFilter field _ op params := addFilter field op params
  addSort := addSort
  fetch := fetch

end Memory

end Listing
