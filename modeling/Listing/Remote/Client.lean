/-
  Listing/Remote/Client.lean
  ==========================
  **Clients of remote services.**

  A client collects filters and sort keys and asks its service for pages.
  `RecordingClient` is one that keeps what it was asked and answers from a
  script.
-/
import Listing.Source

namespace Listing

/-- A client of type `κ` for a remote service with items of type `ι`. -/
class Client (κ : Type) (ι : outParam Type) where
  /-- Add a filter; the client may refuse it. -/
  pushFilter : (field : String) → Operator → (params : List String) → Action κ Unit
  pushOrder : (field : String) → Direction → κ → κ
  fetchPage : (limit offset : Nat) → Action κ (Page ι)

/-! ### A client that records -/

/-- A client that records its calls.  It refuses filters on one field, fails the
    first few fetches, and answers every other fetch with the same items. -/
structure RecordingClient (ι : Type) where
  items : List ι
  total : Nat
  failFetches : Nat
  rejectField : Option String
  filters : List (String × Operator × List String)
  orders : List (String × Direction)
  fetched : List (Nat × Nat)

namespace RecordingClient

variable {ι : Type}

def pushFilter (field : String) (op : Operator) (params : List String) :
    Action (RecordingClient ι) Unit := fun client =>
  if client.rejectField = some field then
    ⟨client, [], .error (.backend s!"field {field} rejected")⟩
  else ⟨{ client with filters := client.filters ++ [(field, op, params)] }, [], .ok ()⟩

def fetchPage (limit offset : Nat) : Action (RecordingClient ι) (Page ι) := fun client =>
  let asked := { client with fetched := client.fetched ++ [(limit, offset)] }
  if client.fetched.length < client.failFetches then
    ⟨asked, [], .error (.backend "upstream timed out")⟩
  else ⟨asked, [], .ok ⟨client.items, client.total⟩⟩

instance : Client (RecordingClient ι) ι where
  pushFilter := pushFilter
  pushOrder field direction client :=
    { client with orders := client.orders ++ [(field, direction)] }
  fetchPage := fetchPage

end RecordingClient

end Listing
