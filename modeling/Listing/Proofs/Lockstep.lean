/-
  Listing/Proofs/Lockstep.lean
  ============================
  **Actions in a row, and two actions side by side.**

  What holds of steps in a row follows from what holds of each: an invariant is
  kept by all of them (`Keeps`), none of them fails while it holds (`Succeeds`),
  they do to the state what each of them does (`Yields`), and two rows whose steps
  go in lockstep do so from start to end (`Lockstep`).
  Whether a step fails decides what runs after it, so lockstep means the same
  result too.
-/
import Listing.Action
import Mathlib.Data.List.Forall2

namespace Listing.Action

variable {σ τ α β : Type}

/-! ### What a bind does -/

section Bind

variable {first : Action σ α} {next : α → Action σ β} {s : σ}

theorem state_bind_ok {a : α} (h : (first s).result = .ok a) :
    (first.bind next s).state = (next a (first s).state).state := by
  simp only [bind, h]

theorem result_bind_ok {a : α} (h : (first s).result = .ok a) :
    (first.bind next s).result = (next a (first s).state).result := by
  simp only [bind, h]

theorem state_bind_error {e : Error} (h : (first s).result = .error e) :
    (first.bind next s).state = (first s).state := by
  simp only [bind, h]

theorem result_bind_error {e : Error} (h : (first s).result = .error e) :
    (first.bind next s).result = .error e := by
  simp only [bind, h]

theorem state_bind_pure {f : α → β} : ((first.bind fun a => pure (f a)) s).state = (first s).state := by
  cases h : (first s).result with
  | error e => exact state_bind_error h
  | ok a => exact state_bind_ok h

theorem result_bind_pure {f : α → β} :
    ((first.bind fun a => pure (f a)) s).result = (first s).result.map f := by
  cases h : (first s).result with
  | error e => exact result_bind_error h
  | ok a => exact result_bind_ok h

end Bind

/-! ### Invariants -/

/-- The action keeps a property of the state, whether it fails or not. -/
def Keeps (P : σ → Prop) (action : Action σ α) : Prop := ∀ s, P s → P (action s).state

theorem keeps_pure (P : σ → Prop) (a : α) : Keeps P (pure a) := fun _ h => h

theorem keeps_bind {P : σ → Prop} {first : Action σ α} {next : α → Action σ β}
    (hfirst : Keeps P first) (hnext : ∀ a, Keeps P (next a)) : Keeps P (first.bind next) := by
  intro s hs
  cases hr : (first s).result with
  | error e =>
    rw [state_bind_error hr]
    exact hfirst s hs
  | ok a =>
    rw [state_bind_ok hr]
    exact hnext a _ (hfirst s hs)

/-! ### Success -/

/-- From states with the first property the action does not fail, and leads to states with
    the second one. -/
def Succeeds (P Q : σ → Prop) (action : Action σ α) : Prop :=
  ∀ s, P s → ∃ a, (action s).result = .ok a ∧ Q (action s).state

theorem succeeds_pure (P : σ → Prop) (a : α) : Succeeds P P (pure a) := fun _ h => ⟨a, rfl, h⟩

theorem succeeds_record (P : σ → Prop) (event : Event) : Succeeds P P (record event) :=
  fun _ h => ⟨(), rfl, h⟩

theorem succeeds_bind {P Q R : σ → Prop} {first : Action σ α} {next : α → Action σ β}
    (hfirst : Succeeds P Q first) (hnext : ∀ a, Succeeds Q R (next a)) :
    Succeeds P R (first.bind next) := by
  intro s hs
  obtain ⟨a, ha, hstate⟩ := hfirst s hs
  obtain ⟨b, hb, hlast⟩ := hnext a _ hstate
  exact ⟨b, (result_bind_ok ha).trans hb, state_bind_ok ha ▸ hlast⟩

theorem succeeds_all {P : σ → Prop} {steps : List (Action σ Unit)}
    (h : ∀ step ∈ steps, Succeeds P P step) : Succeeds P P (all steps) := by
  induction steps with
  | nil => exact succeeds_pure P ()
  | cons step rest ih =>
    refine succeeds_bind (h step List.mem_cons_self) fun _ => ?_
    exact ih fun other hmem => h other (List.mem_cons_of_mem step hmem)

/-! ### Effects -/

/-- The action succeeds, and what it does to the state is the function. -/
def Yields (f : σ → σ) (action : Action σ Unit) : Prop :=
  ∀ s, (action s).result = .ok () ∧ (action s).state = f s

theorem yields_record_bind {f : σ → σ} {action : Action σ Unit} (event : Event)
    (h : Yields f action) : Yields f ((record event).bind fun _ => action) := by
  intro s
  obtain ⟨hresult, hstate⟩ := h s
  exact ⟨hresult, hstate⟩

theorem yields_append {f g : σ → σ} {first second : List (Action σ Unit)}
    (hfirst : Yields f (all first)) (hsecond : Yields g (all second)) :
    Yields (fun s => g (f s)) (all (first ++ second)) := by
  intro s
  obtain ⟨hresult, hstate⟩ := hfirst s
  rw [all_append, result_bind_ok hresult, state_bind_ok hresult, hstate]
  exact hsecond (f s)

/-- What a row of actions does is what each of them does, one after the other. -/
theorem yields_all {f : α → σ → σ} {action : α → Action σ Unit} {xs : List α}
    (h : ∀ x ∈ xs, Yields (f x) (action x)) :
    Yields (fun s => xs.foldl (fun current x => f x current) s) (all (xs.map action)) := by
  induction xs with
  | nil => exact fun _ => ⟨rfl, rfl⟩
  | cons x rest ih =>
    intro s
    obtain ⟨hresult, hstate⟩ := h x List.mem_cons_self s
    rw [List.map_cons, all, result_bind_ok hresult, state_bind_ok hresult, hstate]
    exact ih (fun y hy => h y (List.mem_cons_of_mem x hy)) (f x s)

/-! ### Lockstep -/

/-- From related states both actions lead to related states, with the same result. -/
def Lockstep (R : σ → τ → Prop) (action : Action σ α) (other : Action τ α) : Prop :=
  ∀ s t, R s t → R (action s).state (other t).state ∧ (action s).result = (other t).result

theorem lockstep_pure (R : σ → τ → Prop) (a : α) : Lockstep R (pure a) (pure a) :=
  fun _ _ h => ⟨h, rfl⟩

theorem lockstep_fail (R : σ → τ → Prop) (e : Error) :
    Lockstep R (fail e : Action σ α) (fail e) :=
  fun _ _ h => ⟨h, rfl⟩

theorem lockstep_bind {R : σ → τ → Prop} {first : Action σ α} {other : Action τ α}
    {next : α → Action σ β} {follow : α → Action τ β} (hfirst : Lockstep R first other)
    (hnext : ∀ a, Lockstep R (next a) (follow a)) :
    Lockstep R (first.bind next) (other.bind follow) := by
  intro s t hst
  obtain ⟨hstate, hresult⟩ := hfirst s t hst
  cases hr : (first s).result with
  | error e =>
    have ho : (other t).result = .error e := by rw [← hresult, hr]
    rw [state_bind_error hr, state_bind_error ho, result_bind_error hr, result_bind_error ho]
    exact ⟨hstate, rfl⟩
  | ok a =>
    have ho : (other t).result = .ok a := by rw [← hresult, hr]
    rw [state_bind_ok hr, state_bind_ok ho, result_bind_ok hr, result_bind_ok ho]
    exact hnext a _ _ hstate

theorem lockstep_all {R : σ → τ → Prop} {steps : List (Action σ Unit)}
    {others : List (Action τ Unit)} (h : List.Forall₂ (Lockstep R) steps others) :
    Lockstep R (all steps) (all others) := by
  induction h with
  | nil => exact lockstep_pure R ()
  | cons hstep _ ih => exact lockstep_bind hstep fun _ => ih

end Listing.Action
