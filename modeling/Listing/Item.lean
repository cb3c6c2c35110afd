/-
  Listing/Item.lean
  =================
  **Items and how they are shown.**

  Whatever can be listed is turned into JSON, which may fail, and may have a full
  and a brief form of its own.  A listing with a renderer shows every item with
  it; else an item's own form for the requested amount of detail is shown; else
  the item as it is.
-/
import Listing.Choice
import Listing.Error
import Listing.Json.Basic

namespace Listing

class Representable (ι : Type) where
  /-- The whole item as JSON, or why it refuses. -/
  serialise : ι → Except String Json
  full? : ι → Option Json
  brief? : ι → Option Json

/-- The item's own form for an amount of detail; without a brief form the full one
    does. -/
def ownForm? {ι : Type} [Representable ι] (item : ι) : Detail → Option Json
  | .brief => (Representable.brief? item).or (Representable.full? item)
  | .all | .full => Representable.full? item

def renderItem {ι : Type} [Representable ι] (renderer : Option (ι → Json)) (detail : Detail)
    (item : ι) : Except Error Json :=
  match renderer with
  | some render => .ok (render item)
  | none =>
    match ownForm? item detail with
    | some shown => .ok shown
    | none =>
      match Representable.serialise item with
      | .ok value => .ok value
      | .error refusal => .error (.internal .renderItem (some (.stated refusal)))

/-! ### Items without a schema -/

/-- An item that is any JSON value, or refuses to be turned into one, with forms
    made of some of its fields. -/
structure Row where
  value : Json
  refusal : Option String
  fullKeys : Option (List String)
  briefKeys : Option (List String)

namespace Row

/-- The object with the given keys, their values taken from a value; null where it
    has none. -/
def pick (value : Json) (keys : List String) : Json :=
  .ofFields (keys.map fun key => (key, .ofOption (value.field? key)))

instance : Representable Row where
  serialise row :=
    match row.refusal with
    | some text => .error text
    | none => .ok row.value
  full? row := row.fullKeys.map (pick row.value)
  brief? row := row.briefKeys.map (pick row.value)

end Row

end Listing
