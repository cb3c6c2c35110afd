/-
  Listing/Proofs/Lifecycle.lean
  =============================
  **What any run of calls does to a source.**

  A client may validate, apply and assemble as often as it likes and in any
  order.  `Reached` says for each phase what the source has gone through by then;
  every call keeps it.  `run_orderly` draws the consequences for a whole run:
  steps of the query run once and in order, fetches only behind all of them, a
  rejected request touches nothing, a failed step ends everything, and a failed
  fetch can be repeated.
-/
import Listing.Proofs.Trace
import Listing.Proofs.Validity

namespace Listing

/-! ### Steps of a query on a traced source -/

section Entering

variable {σ : Type}

/-- The action enters the step, or it fails at once and leaves the source alone. -/
def Enters (step : Step) (action : Action (Traced σ) Unit) : Prop :=
  ∀ traced, ((action traced).state = traced ∧ ∃ e, (action traced).result = .error e) ∨
    (action traced).state.trace = traced.trace ++ [⟨step, errorOf? (action traced).result⟩]

theorem enters_enter (step : Step) (action : Action σ Unit) :
    Enters step (Traced.enter step action) := by
  intro traced
  exact .inr rfl

theorem enters_fail (step : Step) (e : Error) :
    Enters step (Action.fail e : Action (Traced σ) Unit) := by
  intro traced
  exact .inl ⟨rfl, e, rfl⟩

/-- Actions in a row enter their steps up to the first failure. -/
theorem trace_all {steps : List Step} {actions : List (Action (Traced σ) Unit)}
    (h : List.Forall₂ Enters steps actions) (traced : Traced σ) :
    ∃ ran, (Action.all actions traced).state.trace = traced.trace ++ ran ∧
      ran.map Ran.step <+: steps ∧
      ((Action.all actions traced).result = .ok () →
        ran.map Ran.step = steps ∧ ∀ r ∈ ran, r.error = none) := by
  induction h generalizing traced with
  | nil => exact ⟨[], by simp [Action.all, Action.pure]⟩
  | @cons step action steps actions hstep _ ih =>
    rw [Action.all]
    cases hr : (action traced).result with
    | error e =>
      rw [Action.state_bind_error hr, Action.result_bind_error hr]
      rcases hstep traced with ⟨hsame, -⟩ | htrace
      · refine ⟨[], by rw [hsame, List.append_nil], List.nil_prefix, ?_⟩
        intro hok
        cases hok
      · refine ⟨[⟨step, some e⟩], by rw [htrace, hr]; rfl, ?_, ?_⟩
        · exact List.prefix_append [step] steps
        · intro hok
          cases hok
    | ok u =>
      rw [Action.state_bind_ok hr, Action.result_bind_ok hr]
      rcases hstep traced with ⟨-, e, hfail⟩ | htrace
      · rw [hr] at hfail
        cases hfail
      obtain ⟨ran, hran, hprefix, hok⟩ := ih (action traced).state
      refine ⟨⟨step, none⟩ :: ran, ?_, ?_, ?_⟩
      · rw [hran, htrace, hr, List.append_assoc]
        rfl
      · exact (List.prefix_cons_inj step).2 hprefix
      · intro hresult
        obtain ⟨hsteps, hnone⟩ := hok hresult
        refine ⟨by rw [List.map_cons, hsteps], ?_⟩
        intro r hmem
        rcases List.mem_cons.1 hmem with rfl | hmem
        · rfl
        · exact hnone r hmem

end Entering

namespace Query

variable {σ ι : Type} [Source σ ι]

theorem enters_applyToken (config : Config σ ι) (name text : String) :
    Enters (.filter name (.ofText text)) (applyToken config.traced name text) := by
  simp only [applyToken, Config.filterType?_traced]
  cases hfilter : config.filterType? name with
  | none => exact enters_fail _ _
  | some filter =>
    simp only [Option.map_some]
    cases hop : (Token.ofText text).operator? with
    | none => exact enters_fail _ _
    | some op =>
      have hname : filter.name = name := eq_of_beq (List.find?_some hfilter :)
      have hoperator : op.name = (Token.ofText text).operator := Operator.name_of_ofName? hop
      have hstep : Step.filter name (.ofText text)
          = .filter filter.name ⟨op.name, (Token.ofText text).params⟩ := by
        rw [hname, hoperator]
      rw [hstep]
      exact enters_enter _ (filter.apply op (Token.ofText text).params)

theorem enters_applySortKey (config : Config σ ι) (key : String × Direction) :
    Enters (.sort key.1 key.2) (applySortKey config.traced key) := by
  simp only [applySortKey, Config.sortType?_traced]
  cases hsort : config.sortType? key.1 with
  | none => exact enters_fail _ _
  | some sort =>
    have hname : sort.name = key.1 := eq_of_beq (List.find?_some hsort :)
    rw [← hname]
    exact enters_enter _ (sort.apply key.2)

/-- Applying a query enters its steps in order, all of them when nothing fails. -/
theorem trace_apply (config : Config σ ι) (query : Query) (traced : Traced σ) :
    ∃ ran, (query.apply config.traced traced).state.trace = traced.trace ++ ran ∧
      ran.map Ran.step <+: query.sequence ∧
      ((query.apply config.traced traced).result = .ok () →
        ran.map Ran.step = query.sequence ∧ ∀ r ∈ ran, r.error = none) :=
  trace_all
    (query.forall₂_plan (enters_applyToken config) (enters_applySortKey config)) traced

end Query

/-! ### What the source has gone through -/

namespace Query

/-- Steps of the query come first, in order and each at most once; then only fetches
    of its page, and those only if every step of the query was run and succeeded. -/
def InOrder (query : Query) (trace : List Ran) : Prop :=
  ∃ applied fetched, trace = applied ++ fetched ∧
    applied.map Ran.step <+: query.sequence ∧
    (∀ ran ∈ fetched, ran.step = .fetch query.window.limit query.window.offset) ∧
    (fetched ≠ [] → applied.map Ran.step = query.sequence ∧ ∀ ran ∈ applied, ran.error = none)

/-- Every step of the query was run, in order and without failure, and after that
    nothing but its page was fetched. -/
def Complete (query : Query) (trace : List Ran) : Prop :=
  ∃ applied fetched, trace = applied ++ fetched ∧ applied.map Ran.step = query.sequence ∧
    (∀ ran ∈ applied, ran.error = none) ∧
    ∀ ran ∈ fetched, ran.step = .fetch query.window.limit query.window.offset

theorem isApply_of_mem_sequence {query : Query} {step : Step} (h : step ∈ query.sequence) :
    step.isApply = true := by
  simp only [sequence, List.mem_append, List.mem_flatMap, List.mem_map] at h
  rcases h with ⟨entry, _, text, _, rfl⟩ | ⟨key, _, rfl⟩ <;> rfl

theorem inOrder_of_prefix {query : Query} {trace : List Ran}
    (h : trace.map Ran.step <+: query.sequence) : query.InOrder trace :=
  ⟨trace, [], (List.append_nil _).symm, h, by simp, by simp⟩

namespace Complete

variable {query : Query} {trace : List Ran}

theorem inOrder (h : query.Complete trace) : query.InOrder trace := by
  obtain ⟨applied, fetched, htrace, hsteps, hnone, hfetch⟩ := h
  exact ⟨applied, fetched, htrace, hsteps ▸ List.prefix_rfl, hfetch, fun _ => ⟨hsteps, hnone⟩⟩

theorem error_eq_none (h : query.Complete trace) {ran : Ran} (hmem : ran ∈ trace)
    (happly : ran.step.isApply = true) : ran.error = none := by
  obtain ⟨applied, fetched, rfl, -, hnone, hfetch⟩ := h
  rcases List.mem_append.1 hmem with hmem | hmem
  · exact hnone ran hmem
  · rw [hfetch ran hmem] at happly
    cases happly

theorem fetch (h : query.Complete trace) (error : Option Error) :
    query.Complete (trace ++ [⟨.fetch query.window.limit query.window.offset, error⟩]) := by
  obtain ⟨applied, fetched, rfl, hsteps, hnone, hfetch⟩ := h
  refine ⟨applied, fetched ++ [⟨.fetch query.window.limit query.window.offset, error⟩],
    List.append_assoc .., hsteps, hnone, ?_⟩
  intro ran hmem
  rcases List.mem_append.1 hmem with hmem | hmem
  · exact hfetch ran hmem
  · rw [List.mem_singleton.1 hmem]

end Complete

end Query

/-! ### Reachable states -/

namespace Assembly

variable {σ ι : Type} [Source σ ι]

/-- The states that a traced assembly can get into, starting from `source`. -/
inductive Reached (config : Config σ ι) (request : Request) (source : σ) :
    Assembly (Traced σ) ι → Prop where
  | pending : Reached config request source ⟨config.traced, request, ⟨source, []⟩, .pending⟩
  | validated {query : Query} (valid : Query.ofRequest config request = .ok query) :
      Reached config request source ⟨config.traced, request, ⟨source, []⟩, .validated query⟩
  | applied {query : Query} {left : Traced σ} (valid : Query.ofRequest config request = .ok query)
      (complete : query.Complete left.trace) :
      Reached config request source ⟨config.traced, request, left, .applied query⟩
  | assembled {query : Query} {left : Traced σ} {document : Document}
      (valid : Query.ofRequest config request = .ok query)
      (complete : query.Complete left.trace) :
      Reached config request source ⟨config.traced, request, left, .assembled document⟩
  | poisoned {query : Query} {left : Traced σ} (valid : Query.ofRequest config request = .ok query)
      (started : left.trace.map Ran.step <+: query.sequence) :
      Reached config request source ⟨config.traced, request, left, .poisoned⟩

variable {config : Config σ ι} {request : Request} {source : σ}

theorem reached_validate : Action.Keeps (Reached config request source) validate := by
  intro assembly h
  cases h with
  | pending =>
    simp only [validate, Query.ofRequest_traced]
    cases hquery : Query.ofRequest config request with
    | error e => exact .pending
    | ok query => exact .validated hquery
  | validated valid => exact .validated valid
  | applied valid complete => exact .applied valid complete
  | assembled valid complete => exact .assembled valid complete
  | poisoned valid started => exact .poisoned valid started

theorem reached_applyQuery : Action.Keeps (Reached config request source) applyQuery := by
  intro assembly h
  cases h with
  | pending => exact .pending
  | @validated query valid =>
    obtain ⟨ran, htrace, hprefix, hok⟩ := query.trace_apply config ⟨source, []⟩
    rw [List.nil_append] at htrace
    simp only [applyQuery]
    cases hr : (query.apply config.traced ⟨source, []⟩).result with
    | error e =>
      refine .poisoned valid ?_
      rw [htrace]
      exact hprefix
    | ok u =>
      obtain ⟨hsteps, hnone⟩ := hok hr
      refine .applied valid ⟨ran, [], ?_, hsteps, hnone, ?_⟩
      · rw [htrace, List.append_nil]
      · intro r hmem
        cases hmem
  | applied valid complete => exact .applied valid complete
  | assembled valid complete => exact .assembled valid complete
  | poisoned valid started => exact .poisoned valid started

section Fetching

variable [Representable ι]

theorem reached_fetchDocument : Action.Keeps (Reached config request source) fetchDocument := by
  intro assembly h
  cases h with
  | pending => exact .pending
  | validated valid => exact .validated valid
  | @applied query left valid complete =>
    have hcomplete := complete.fetch
      (errorOf? (Source.fetch query.window.limit query.window.offset left.source).result)
    simp only [fetchDocument]
    generalize (Except.bind _ _ : Except Error Document) = shown
    cases shown with
    | error e => exact .applied valid hcomplete
    | ok document => exact .assembled valid hcomplete
  | assembled valid complete => exact .assembled valid complete
  | poisoned valid started => exact .poisoned valid started

theorem reached_perform (call : Call) :
    Action.Keeps (Reached config request source) (perform call) :=
  keeps_perform reached_validate reached_applyQuery reached_fetchDocument call

theorem reached_run (calls : List Call) :
    Reached config request source (run calls (start config.traced request ⟨source, []⟩)) :=
  run_keeps reached_perform calls .pending

end Fetching

/-! ### States that calls leave as they are -/

section Settled

variable [Representable ι] {assembly : Assembly σ ι}

/-- When validating fails and changes nothing, so does every call. -/
theorem perform_of_validate_error {error : Error} (hstate : (validate assembly).state = assembly)
    (hresult : (validate assembly).result = .error error) (call : Call) :
    (perform call assembly).state = assembly ∧ answer call assembly = .error error := by
  have happly : (apply assembly).state = assembly ∧ (apply assembly).result = .error error :=
    ⟨(Action.state_bind_error hresult).trans hstate, Action.result_bind_error hresult⟩
  have hassemble : (assemble assembly).state = assembly
      ∧ (assemble assembly).result = .error error :=
    ⟨(Action.state_bind_error happly.2).trans happly.1, Action.result_bind_error happly.2⟩
  cases call with
  | validate =>
    exact ⟨(Action.state_bind_error hresult).trans hstate, Action.result_bind_error hresult⟩
  | apply =>
    exact ⟨(Action.state_bind_error happly.2).trans happly.1, Action.result_bind_error happly.2⟩
  | assemble =>
    exact ⟨(Action.state_bind_error hassemble.2).trans hassemble.1,
      Action.result_bind_error hassemble.2⟩

def Unfinished (assembly : Assembly σ ι) : Prop := ∀ document, assembly.phase ≠ .assembled document

omit [Representable ι] in
theorem unfinished_apply : Action.Keeps (Unfinished (σ := σ) (ι := ι)) apply := by
  refine Action.keeps_bind ?_ fun _ => ?_
  · rintro ⟨config, request, source, phase⟩ h
    cases phase with
    | pending =>
      simp only [validate]
      cases Query.ofRequest config request <;> exact fun _ => Phase.noConfusion
    | _ => exact h
  · rintro ⟨config, request, source, phase⟩ h
    cases phase with
    | validated query =>
      simp only [applyQuery]
      cases (query.apply config source).result <;> exact fun _ => Phase.noConfusion
    | _ => exact h

theorem unfinished_of_fetch_error {error : Error}
    (h : (fetchDocument assembly).result = .error error) :
    Unfinished (fetchDocument assembly).state := by
  obtain ⟨config, request, source, phase⟩ := assembly
  cases phase with
  | assembled document => cases h
  | applied query =>
    simp only [fetchDocument] at h ⊢
    generalize (Except.bind _ _ : Except Error Document) = shown at h ⊢
    cases shown with
    | error e => exact fun _ => Phase.noConfusion
    | ok document => cases h
  | _ => exact fun _ => Phase.noConfusion

theorem unfinished_of_assemble_error {error : Error}
    (h : answer .assemble assembly = .error error) : Unfinished (run [.assemble] assembly) := by
  have hstate : run [.assemble] assembly = (assemble assembly).state := Action.state_bind_pure
  have hresult : (assemble assembly).result.map some = .error error :=
    Action.result_bind_pure.symm.trans h
  rw [hstate]
  cases happly : (apply assembly).result with
  | error e =>
    have hsame : (assemble assembly).state = (apply assembly).state :=
      Action.state_bind_error happly
    rw [hsame]
    refine unfinished_apply assembly ?_
    intro document hphase
    obtain ⟨config, request, source, phase⟩ := assembly
    cases hphase
    cases happly
  | ok u =>
    have hsame : (assemble assembly).state = (fetchDocument (apply assembly).state).state :=
      Action.state_bind_ok happly
    have hfetch : (assemble assembly).result = (fetchDocument (apply assembly).state).result :=
      Action.result_bind_ok happly
    rw [hsame]
    cases hr : (assemble assembly).result with
    | error e => exact unfinished_of_fetch_error (hfetch.symm.trans hr)
    | ok document =>
      rw [hr] at hresult
      cases hresult

/-- A run goes nowhere from a state that every single call leaves as it is. -/
theorem run_fixed (h : ∀ call, (perform call assembly).state = assembly) (calls : List Call) :
    run calls assembly = assembly :=
  run_keeps (P := fun current => current = assembly)
    (by rintro call _ rfl; exact h call) calls rfl

end Settled

/-! ### A whole run -/

/-- What holds of a traced assembly after any calls. -/
structure Orderly [Representable ι] (config : Config σ ι) (request : Request) (source : σ)
    (assembly : Assembly (Traced σ) ι) : Prop where
  /-- The query is applied step by step and its page fetched behind it. -/
  ordered : (Query.read config request).InOrder assembly.source.trace
  /-- While the request is found invalid the source is not touched and nothing is
      remembered; every call says what is wrong. -/
  rejected : ∀ error, Query.ofRequest config request = .error error →
    assembly.source = ⟨source, []⟩ ∧ assembly.phase = .pending ∧
      ∀ call, answer call assembly = .error error
  /-- Once a step of the query has failed, no call does anything any more. -/
  stuck : (∃ ran ∈ assembly.source.trace, ran.step.isApply = true ∧ ran.error ≠ none) →
    ∀ calls call, run calls assembly = assembly ∧ answer call assembly = .error poisonedError
  /-- After a fetch or the showing of an item has failed, the query is still applied:
      assembling again runs one fetch, the other calls run nothing. -/
  repeatable : ∀ error, answer .assemble assembly = .error error →
    (∃ ran ∈ (run [.assemble] assembly).source.trace, ran.step.isApply = false) →
    let failed := run [.assemble] assembly
    failed.phase = .applied (Query.read config request) ∧
      (∀ call, call ≠ .assemble → run [call] failed = failed ∧ answer call failed = .ok none) ∧
      ∃ ran, (run [.assemble] failed).source.trace = failed.source.trace ++ [ran] ∧
        ran.step = .fetch (Query.windowOf config request).limit
          (Query.windowOf config request).offset
  /-- A document that was made stays, and the source is left alone. -/
  settled : ∀ document, assembly.phase = .assembled document →
    (∀ calls, run calls assembly = assembly) ∧ answer .assemble assembly = .ok (some document)

section Consequences

variable [Representable ι] {assembly : Assembly (Traced σ) ι}

omit [Representable ι] in
theorem Reached.ordered (h : Reached config request source assembly) :
    (Query.read config request).InOrder assembly.source.trace := by
  cases h with
  | pending => exact Query.inOrder_of_prefix List.nil_prefix
  | validated valid => exact Query.inOrder_of_prefix List.nil_prefix
  | applied valid complete => exact (Query.ofRequest_eq_ok_iff.1 valid).2 ▸ complete.inOrder
  | assembled valid complete => exact (Query.ofRequest_eq_ok_iff.1 valid).2 ▸ complete.inOrder
  | poisoned valid started =>
    exact (Query.ofRequest_eq_ok_iff.1 valid).2 ▸ Query.inOrder_of_prefix started

theorem Reached.rejected (h : Reached config request source assembly) {error : Error}
    (hinvalid : Query.ofRequest config request = .error error) :
    assembly.source = ⟨source, []⟩ ∧ assembly.phase = .pending ∧
      ∀ call, answer call assembly = .error error := by
  cases h with
  | pending =>
    refine ⟨rfl, rfl, fun call => (perform_of_validate_error ?_ ?_ call).2⟩
    all_goals simp only [validate, Query.ofRequest_traced, hinvalid]
  | validated valid | applied valid _ | assembled valid _ | poisoned valid _ =>
    rw [valid] at hinvalid
    cases hinvalid

/-- A failed step of the query is only found where nothing can be done any more. -/
theorem Reached.stuck (h : Reached config request source assembly)
    (hfailed : ∃ ran ∈ assembly.source.trace, ran.step.isApply = true ∧ ran.error ≠ none)
    (calls : List Call) (call : Call) :
    run calls assembly = assembly ∧ answer call assembly = .error poisonedError := by
  obtain ⟨ran, hmem, happly, herror⟩ := hfailed
  cases h with
  | pending => cases hmem
  | validated _ => cases hmem
  | applied _ complete => exact absurd (complete.error_eq_none hmem happly) herror
  | assembled _ complete => exact absurd (complete.error_eq_none hmem happly) herror
  | @poisoned _ left _ _ =>
    have hsame : ∀ call, (perform call ⟨config.traced, request, left, .poisoned⟩).state
          = ⟨config.traced, request, left, .poisoned⟩
        ∧ answer call ⟨config.traced, request, left, .poisoned⟩ = .error poisonedError :=
      perform_of_validate_error rfl rfl
    exact ⟨run_fixed (fun call => (hsame call).1) calls, (hsame call).2⟩

/-- What assembling gives when it fails behind the query: the query is still applied. -/
theorem Reached.phase_of_failed_fetch (h : Reached config request source assembly) {error : Error}
    (herror : answer .assemble assembly = .error error)
    (hfetch : ∃ ran ∈ (run [.assemble] assembly).source.trace, ran.step.isApply = false) :
    (run [.assemble] assembly).phase = .applied (Query.read config request) := by
  obtain ⟨ran, hmem, hstep⟩ := hfetch
  have hreached : Reached config request source (run [.assemble] assembly) :=
    reached_perform .assemble assembly h
  have hunfinished := unfinished_of_assemble_error herror
  generalize run [.assemble] assembly = failed at *
  cases hreached with
  | pending => cases hmem
  | validated _ => cases hmem
  | applied valid _ => rw [(Query.ofRequest_eq_ok_iff.1 valid).2]
  | @assembled _ _ document _ _ => exact absurd rfl (hunfinished document)
  | poisoned _ started =>
    have happly := Query.isApply_of_mem_sequence (started.subset (List.mem_map_of_mem hmem))
    rw [hstep] at happly
    cases happly

/-- With the query applied, assembling runs one fetch and the other calls run nothing. -/
theorem repeatable_of_applied {query : Query} (hphase : assembly.phase = .applied query) :
    (∀ call, call ≠ .assemble → run [call] assembly = assembly ∧
      answer call assembly = .ok none) ∧
    ∃ ran, (run [.assemble] assembly).source.trace = assembly.source.trace ++ [ran] ∧
      ran.step = .fetch query.window.limit query.window.offset := by
  obtain ⟨config, request, left, _⟩ := assembly
  cases hphase
  constructor
  · intro call hcall
    cases call with
    | validate => exact ⟨rfl, rfl⟩
    | apply => exact ⟨rfl, rfl⟩
    | assemble => exact absurd rfl hcall
  · have hstate : run [.assemble] ⟨config, request, left, .applied query⟩
        = (fetchDocument ⟨config, request, left, .applied query⟩).state :=
      Action.state_bind_pure.trans (Action.state_bind_ok (a := ()) rfl)
    rw [hstate]
    refine ⟨⟨.fetch query.window.limit query.window.offset, errorOf?
      (Source.fetch query.window.limit query.window.offset left.source).result⟩, ?_, rfl⟩
    simp only [fetchDocument]
    generalize (Except.bind _ _ : Except Error Document) = shown
    cases shown <;> rfl

/-- With the document made, no call runs anything. -/
theorem settled_of_assembled {document : Document} (hphase : assembly.phase = .assembled document) :
    (∀ calls, run calls assembly = assembly) ∧
      answer .assemble assembly = .ok (some document) := by
  obtain ⟨config, request, left, _⟩ := assembly
  cases hphase
  refine ⟨run_fixed fun call => ?_, rfl⟩
  cases call <;> rfl

end Consequences

/-- **Any run of calls is orderly.**  Whatever a client calls, in whatever order, and
    however the source answers: the traced run goes as the plain one does, and its trace
    tells what the plain source was put through. -/
theorem run_orderly [Representable ι] (config : Config σ ι) (request : Request) (source : σ)
    (calls : List Call) :
    let traced := run calls (start config.traced request ⟨source, []⟩)
    let plain := run calls (start config request source)
    Shadows traced plain ∧ (∀ call, answer call traced = answer call plain) ∧
      Orderly config request source traced := by
  have hreached : Reached config request source
      (run calls (start config.traced request ⟨source, []⟩)) := reached_run calls
  have hshadows : Shadows (run calls (start config.traced request ⟨source, []⟩))
      (run calls (start config request source)) :=
    shadows_run calls ⟨rfl, rfl, rfl, rfl⟩
  refine ⟨hshadows, fun call => (lockstep_perform call _ _ hshadows).2, ?_⟩
  exact {
    ordered := hreached.ordered
    rejected := fun _ => hreached.rejected
    stuck := hreached.stuck
    repeatable := by
      intro error herror hfetch
      have hphase := hreached.phase_of_failed_fetch herror hfetch
      exact ⟨hphase, repeatable_of_applied hphase⟩
    settled := fun _ => settled_of_assembled }

end Assembly

end Listing
