/-
  Listing/Action.lean
  ===================
  **Steps that change a state, record events and may fail.**

  Applying a filter, fetching a page and assembling a document are all steps on
  some state.  A step answers with a result or an error, and in either case with
  the state it left behind and the events it recorded: what happened before a
  failure is not undone.
-/
import Listing.Event

namespace Listing

/-- What a step leaves behind. -/
structure Outcome (σ α : Type) where
  state : σ
  events : List Event
  result : Except Error α

/-- A step on a state of type `σ` with a result of type `α`. -/
def Action (σ α : Type) : Type := σ → Outcome σ α

namespace Action

variable {σ α β γ : Type}

def pure (a : α) : Action σ α := fun s => ⟨s, [], .ok a⟩

def fail (error : Error) : Action σ α := fun s => ⟨s, [], .error error⟩

def record (event : Event) : Action σ Unit := fun s => ⟨s, [event], .ok ()⟩

def update (f : σ → σ) : Action σ Unit := fun s => ⟨f s, [], .ok ()⟩

/-- A result or failure decided without the state. -/
def ofExcept (result : Except Error α) : Action σ α := fun s => ⟨s, [], result⟩

/-- One step, and then another that may look at the first one's result.  The
    second does not run when the first fails. -/
def bind (first : Action σ α) (next : α → Action σ β) : Action σ β := fun s =>
  let done := first s
  match done.result with
  | .error error => ⟨done.state, done.events, .error error⟩
  | .ok a =>
    let last := next a done.state
    ⟨last.state, done.events ++ last.events, last.result⟩

instance : Monad (Action σ) where
  pure := Action.pure
  bind := Action.bind

/-- Run steps in order up to the first failure. -/
def all : List (Action σ Unit) → Action σ Unit
  | [] => pure ()
  | step :: rest => step.bind fun _ => all rest

/-! ### Laws of steps in a row -/

theorem pure_bind (a : α) (f : α → Action σ β) : (pure a).bind f = f a := by
  funext s
  simp [bind, pure]

theorem bind_assoc (step : Action σ α) (f : α → Action σ β) (g : β → Action σ γ) :
    (step.bind f).bind g = step.bind fun a => (f a).bind g := by
  funext s
  simp only [bind]
  cases (step s).result with
  | error e => rfl
  | ok a =>
    simp only
    cases (f a (step s).state).result <;> simp

theorem all_append (first second : List (Action σ Unit)) :
    all (first ++ second) = (all first).bind fun _ => all second := by
  induction first with
  | nil => rw [List.nil_append, all, pure_bind]
  | cons step rest ih => rw [List.cons_append, all, ih, all, bind_assoc]

end Action

end Listing
