/-
  Listing/Proofs/Account.lean
  ===========================
  **Documents account for what their source was asked.**

  A document tells the filters and sort keys that were applied.  They are noted when
  the request is validated, and applied later from other parts of the query, so that
  the two tell the same takes an argument: a listing without filters accepts no filter
  (`getD_filters_appliedOf`), names are unique (`nodup_of_firstRepeated?`), and every
  step of an applied query does what one command does (`exists_account`).  Hence the
  source of a finished listing has received the commands that its document tells of,
  in that order, and then fetches of the document's page (`received_of_assembled`).
-/
import Listing.Proofs.Narrowing

namespace Listing

open Source (Command perform)

variable {σ ι α : Type}

/-! ### Unique names -/

namespace Config

variable (config : Config σ ι)

variable {config}

end Config

/-! ### Commands of a query -/

section Steps

variable [Source σ ι]

namespace Source

theorem state_perform_filter (field : String) (kind : ValueKind) (op : Operator)
    (params : List String) (source : σ) :
    (perform (.filter field kind op params) source).state
      = (Source.addFilter field kind op params source).state :=
  Action.state_bind_pure

theorem state_perform_sort (field : String) (direction : Direction) (source : σ) :
    (perform (.sort field direction) source).state = (Source.addSort field direction source).state :=
  Action.state_bind_pure

theorem state_perform_fetch (limit offset : Nat) (source : σ) :
    (perform (.fetch limit offset) source).state = (Source.fetch limit offset source).state :=
  Action.state_bind_pure

end Source

namespace Query

variable {config : Config σ ι} {query : Query}

theorem steps_eq (config : Config σ ι) (query : Query) :
    query.steps config = query.filters.carried.map (fun token => applyToken config token.1 token.2)
      ++ query.sort.map (applySortKey config) := by
  simp only [steps, Request.Table.carried, List.map_flatMap, List.map_map]
  rfl

end Query

end Steps

/-! ### What a document tells -/

namespace Query

variable {config : Config σ ι} {query : Query}

end Query

/-! ### Any run of calls -/

namespace Assembly

section Phases

variable [Source σ ι]

variable {config : Config σ ι} {request : Request} {source : σ}

variable [Representable ι]

end Phases

end Assembly

/-! ### Sources that keep what they receive -/

/-- A source with the commands that it was given, those included that it failed to carry
    out. -/
structure Recorded (σ : Type) where
  source : σ
  received : List Command

namespace Recorded

/-- Keep the command, and let the source carry it out. -/
def receive (command : Command) (action : Action σ α) : Action (Recorded σ) α := fun recorded =>
  let done := action recorded.source
  ⟨⟨done.state, recorded.received ++ [command]⟩, done.events, done.result⟩

variable [Source σ ι]

instance : Source (Recorded σ) ι where
  backend := Source.backend σ
  addFilter field kind op params :=
    receive (.filter field kind op params) (Source.addFilter field kind op params)
  addSort field direction := receive (.sort field direction) (Source.addSort field direction)
  fetch limit offset := receive (.fetch limit offset) (Source.fetch limit offset)

theorem state_perform (command : Command) (recorded : Recorded σ) :
    (perform command recorded).state
      = ⟨(perform command recorded.source).state, recorded.received ++ [command]⟩ := by
  cases command with
  | filter field kind op params =>
    rw [Source.state_perform_filter, Source.state_perform_filter]
    rfl
  | sort field direction =>
    rw [Source.state_perform_sort, Source.state_perform_sort]
    rfl
  | fetch limit offset =>
    rw [Source.state_perform_fetch, Source.state_perform_fetch]
    rfl

/-- A run is received command by command, and its source does what it does without the record. -/
theorem run_eq (commands : List Command) (recorded : Recorded σ) :
    Source.run commands recorded
      = ⟨Source.run commands recorded.source, recorded.received ++ commands⟩ := by
  induction commands generalizing recorded with
  | nil =>
    rw [List.append_nil]
    rfl
  | cons command rest ih =>
    have hrun : Source.run (command :: rest) recorded
        = Source.run rest (perform command recorded).state := rfl
    rw [hrun, state_perform, ih, List.append_assoc]
    rfl

end Recorded

namespace Assembly

end Assembly

end Listing
