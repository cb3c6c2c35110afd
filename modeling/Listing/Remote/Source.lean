/-
  Listing/Remote/Source.lean
  ==========================
  **A source behind a remote service.**

  Filters, sort keys and pages are passed on to a client.  Remote services know
  neither emptiness nor ranges, so filters with those operators are refused.
-/
import Listing.Remote.Client

namespace Listing

structure Remote (κ : Type) where
  client : κ

namespace Remote

variable {κ ι : Type}

def backendName : String := "remote"

/-- Whether remote services know an operator. -/
def supports : Operator → Bool
  | .empty | .notEmpty | .between | .notBetween => false
  | _ => true

def onClient {α : Type} (step : Action κ α) : Action (Remote κ) α := fun source =>
  let outcome := step source.client
  ⟨⟨outcome.state⟩, outcome.events, outcome.result⟩

def addFilter [Client κ ι] (field : String) (op : Operator) (params : List String) :
    Action (Remote κ) Unit :=
  if supports op then onClient (Client.pushFilter field op params)
  else Action.fail (.unsupportedOperator op.name backendName)

def addSort [Client κ ι] (field : String) (direction : Direction) : Action (Remote κ) Unit :=
  Action.update fun source => ⟨Client.pushOrder field direction source.client⟩

def fetch [Client κ ι] (limit offset : Nat) : Action (Remote κ) (Page ι) := do
  let page ← onClient (Client.fetchPage limit offset)
  Action.record (.fetched .remote page.total offset limit page.items.length)
  return page

instance [Client κ ι] : Source (Remote κ) ι where
  backend := backendName
  addFilter field _ op params := addFilter field op params
  addSort := addSort
  fetch := fetch

end Remote

end Listing
