/-
  Listing/Proofs/Trace.lean
  =========================
  **The steps that an assembly runs on its source.**

  A traced source is a source together with the list of steps that were run on
  it.  Filters, sorts and fetches are entered into the list where they are run,
  so an assembly over a traced source is an ordinary assembly that leaves its
  history behind.  Tracing changes nothing else: `lockstep_perform` says that
  every call of a traced assembly answers as the same call of the plain one, and
  leaves the same source and phase.
-/
import Listing.Assembly
import Listing.Proofs.Lockstep

namespace Listing

/-! ### Steps -/

/-- One step on a source: a token of a filter, a sort key, or a fetch. -/
inductive Step where
  | filter (name : String) (token : Token)
  | sort (name : String) (direction : Direction)
  | fetch (limit offset : Nat)
deriving DecidableEq, Repr

namespace Step

def isApply : Step → Bool
  | .filter .. | .sort .. => true
  | .fetch .. => false

end Step

/-- The steps of a query: every token of every filter in order, then every sort key. -/
def Query.sequence (query : Query) : List Step :=
  query.filters.flatMap (fun entry => entry.2.map fun text => .filter entry.1 (.ofText text))
    ++ query.sort.map fun key => .sort key.1 key.2

structure Ran where
  step : Step
  error : Option Error
deriving DecidableEq, Repr

def errorOf? {α : Type} : Except Error α → Option Error
  | .ok _ => none
  | .error error => some error

/-! ### Traced sources -/

/-- A source with the steps that were run on it, the first one first. -/
structure Traced (σ : Type) where
  source : σ
  trace : List Ran

namespace Traced

variable {σ ι α : Type}

/-- An action on the source that is no step. -/
def lift (action : Action σ α) : Action (Traced σ) α := fun traced =>
  let done := action traced.source
  ⟨⟨done.state, traced.trace⟩, done.events, done.result⟩

/-- An action on the source that is entered as a step. -/
def enter (step : Step) (action : Action σ α) : Action (Traced σ) α := fun traced =>
  let done := action traced.source
  ⟨⟨done.state, traced.trace ++ [⟨step, errorOf? done.result⟩]⟩, done.events, done.result⟩

instance [Source σ ι] : Source (Traced σ) ι where
  backend := Source.backend σ
  addFilter field kind op params := lift (Source.addFilter field kind op params)
  addSort field direction := lift (Source.addSort field direction)
  fetch limit offset := enter (.fetch limit offset) (Source.fetch limit offset)

end Traced

/-! ### Traced configurations -/

section Configurations

variable {σ ι : Type} [Source σ ι]

def FilterType.traced (filter : FilterType σ) : FilterType (Traced σ) :=
  { filter with
    custom := some fun _ op params =>
      Traced.enter (.filter filter.name ⟨op.name, params⟩) (filter.apply op params) }

def SortType.traced (sort : SortType σ) : SortType (Traced σ) :=
  { sort with
    custom := some fun _ direction => Traced.enter (.sort sort.name direction) (sort.apply direction) }

def Settings.traced (settings : Settings σ ι) : Settings (Traced σ) ι :=
  { settings with
    filters := settings.filters.map FilterType.traced
    sorts := settings.sorts.map SortType.traced }

theorem Settings.fault?_traced (settings : Settings σ ι) :
    settings.traced.fault? = settings.fault? := by
  have hfilters : settings.traced.filters.map FilterType.name
      = settings.filters.map FilterType.name := by
    simp only [Settings.traced, List.map_map]
    rfl
  have hsorts : settings.traced.sorts.map SortType.name = settings.sorts.map SortType.name := by
    simp only [Settings.traced, List.map_map]
    rfl
  simp only [fault?, strayDefaultSort?, hfilters, hsorts]
  rfl

namespace Config

def traced (config : Config σ ι) : Config (Traced σ) ι :=
  ⟨config.toSettings.traced, by rw [Settings.fault?_traced, config.faultless]⟩

theorem filterType?_traced (config : Config σ ι) (name : String) :
    config.traced.filterType? name = (config.filterType? name).map FilterType.traced := by
  simp only [filterType?, traced, Settings.traced, List.find?_map]
  rfl

theorem sortType?_traced (config : Config σ ι) (name : String) :
    config.traced.sortType? name = (config.sortType? name).map SortType.traced := by
  simp only [sortType?, traced, Settings.traced, List.find?_map]
  rfl

/-! ### Tracing and validation -/

theorem validator_traced (config : Config σ ι) : config.traced.validator = config.validator := by
  have hrule : config.traced.filterTypeRule = config.filterTypeRule := by
    funext _ name _
    simp only [filterTypeRule, filterType?_traced, Option.isSome_map]
  simp only [validator, hrule]

theorem tokenViolations_traced (config : Config σ ι) (filter : FilterType σ) (field text : String) :
    config.traced.tokenViolations filter.traced field text
      = config.tokenViolations filter field text := by
  simp only [tokenViolations, validator_traced]
  rfl

theorem filterViolations_traced (config : Config σ ι) (key : String)
    (entry : String × List String) :
    config.traced.filterViolations key entry = config.filterViolations key entry := by
  simp only [filterViolations, filterType?_traced]
  cases config.filterType? entry.1 with
  | none => rfl
  | some filter => simp only [Option.map_some, tokenViolations_traced]

theorem sortViolations_traced (config : Config σ ι) (entry : String × List String) :
    config.traced.sortViolations entry = config.sortViolations entry := by
  simp only [sortViolations, sortType?_traced, Option.isNone_map]

theorem violations_traced (config : Config σ ι) (request : Request) :
    config.traced.violations request = config.violations request := by
  have hfilters : config.traced.filterViolations = config.filterViolations := by
    funext key entry
    exact filterViolations_traced config key entry
  have hsorts : config.traced.sortViolations = config.sortViolations := by
    funext entry
    exact sortViolations_traced config entry
  simp only [violations, validator_traced, filterKeyViolations, sortKeyViolations, hfilters, hsorts]
  rfl

end Config

theorem Query.ofRequest_traced (config : Config σ ι) (request : Request) :
    Query.ofRequest config.traced request = Query.ofRequest config request := by
  have hread : Query.read config.traced request = Query.read config request := by
    simp only [Query.read, Query.windowOf, Query.sortOf, Query.appliedOf, Config.traced,
      Settings.traced, List.isEmpty_map]
    rfl
  simp only [Query.ofRequest, Config.violations_traced, hread]

/-! ### Tracing and the query -/

namespace Traced

def Holds (traced : Traced σ) (source : σ) : Prop := traced.source = source

theorem lockstep_enter {α : Type} (step : Step) (action : Action σ α) :
    Action.Lockstep Holds (enter step action) action := by
  rintro ⟨_, trace⟩ source rfl
  exact ⟨rfl, rfl⟩

end Traced

theorem FilterType.lockstep_apply (filter : FilterType σ) (op : Operator) (params : List String) :
    Action.Lockstep Traced.Holds (filter.traced.apply op params) (filter.apply op params) := by
  intro traced source h
  exact Traced.lockstep_enter (.filter filter.name ⟨op.name, params⟩) (filter.apply op params)
    traced source h

theorem SortType.lockstep_apply (sort : SortType σ) (direction : Direction) :
    Action.Lockstep Traced.Holds (sort.traced.apply direction) (sort.apply direction) := by
  intro traced source h
  exact Traced.lockstep_enter (.sort sort.name direction) (sort.apply direction) traced source h

namespace Query

theorem lockstep_applyToken (config : Config σ ι) (name text : String) :
    Action.Lockstep Traced.Holds (applyToken config.traced name text)
      (applyToken config name text) := by
  simp only [applyToken, Config.filterType?_traced]
  cases config.filterType? name with
  | none => exact Action.lockstep_fail _ _
  | some filter =>
    simp only [Option.map_some]
    cases (Token.ofText text).operator? with
    | none => exact Action.lockstep_fail _ _
    | some op => exact filter.lockstep_apply op _

theorem lockstep_applySortKey (config : Config σ ι) (key : String × Direction) :
    Action.Lockstep Traced.Holds (applySortKey config.traced key) (applySortKey config key) := by
  simp only [applySortKey, Config.sortType?_traced]
  cases config.sortType? key.1 with
  | none => exact Action.lockstep_fail _ _
  | some sort => exact sort.lockstep_apply key.2

/-- Two lists made from the tokens and sort keys of one query are related item by item
    when the items of each token and of each sort key are. -/
theorem forall₂_plan {α β : Type} {R : α → β → Prop} (query : Query)
    {ofToken : String → String → α} {ofKey : String × Direction → α}
    {ofToken' : String → String → β} {ofKey' : String × Direction → β}
    (htoken : ∀ name text, R (ofToken name text) (ofToken' name text))
    (hkey : ∀ key, R (ofKey key) (ofKey' key)) :
    List.Forall₂ R
      (query.filters.flatMap (fun entry => entry.2.map (ofToken entry.1)) ++ query.sort.map ofKey)
      (query.filters.flatMap (fun entry => entry.2.map (ofToken' entry.1))
        ++ query.sort.map ofKey') := by
  refine List.rel_append ?_ ?_
  · induction query.filters with
    | nil => exact .nil
    | cons entry rest ih =>
      rw [List.flatMap_cons, List.flatMap_cons]
      refine List.rel_append ?_ ih
      simp only [List.forall₂_map_left_iff, List.forall₂_map_right_iff, List.forall₂_same]
      intro text _
      exact htoken entry.1 text
  · simp only [List.forall₂_map_left_iff, List.forall₂_map_right_iff, List.forall₂_same]
    intro key _
    exact hkey key

theorem lockstep_apply (config : Config σ ι) (query : Query) :
    Action.Lockstep Traced.Holds (query.apply config.traced) (query.apply config) :=
  Action.lockstep_all <|
    query.forall₂_plan (lockstep_applyToken config) (lockstep_applySortKey config)

end Query

end Configurations

/-! ### Calls -/

inductive Call where
  | validate
  | apply
  | assemble
deriving DecidableEq, Repr

namespace Assembly

variable {σ ι : Type} [Source σ ι]

section Calls

variable [Representable ι]

/-- Carry out a call.  Only assembling answers with a document. -/
def perform : Call → Action (Assembly σ ι) (Option Document)
  | .validate => validate.bind fun _ => Action.pure none
  | .apply => apply.bind fun _ => Action.pure none
  | .assemble => assemble.bind fun document => Action.pure (some document)

/-- What every phase keeps is kept by every call. -/
theorem keeps_perform {P : Assembly σ ι → Prop} (hvalidate : Action.Keeps P validate)
    (happlyQuery : Action.Keeps P applyQuery) (hfetch : Action.Keeps P fetchDocument) (call : Call) :
    Action.Keeps P (perform call) := by
  have happly : Action.Keeps P apply := Action.keeps_bind hvalidate fun _ => happlyQuery
  cases call with
  | validate => exact Action.keeps_bind hvalidate fun _ => Action.keeps_pure P _
  | apply => exact Action.keeps_bind happly fun _ => Action.keeps_pure P _
  | assemble =>
    have hassemble : Action.Keeps P assemble := Action.keeps_bind happly fun _ => hfetch
    exact Action.keeps_bind hassemble fun _ => Action.keeps_pure P _

/-- The assembly after calls in a row, whether they fail or not. -/
def run (calls : List Call) (assembly : Assembly σ ι) : Assembly σ ι :=
  calls.foldl (fun current call => (perform call current).state) assembly

def answer (call : Call) (assembly : Assembly σ ι) : Except Error (Option Document) :=
  (perform call assembly).result

theorem run_keeps {P : Assembly σ ι → Prop} (h : ∀ call, Action.Keeps P (perform call))
    (calls : List Call) {assembly : Assembly σ ι} (hstart : P assembly) :
    P (run calls assembly) := by
  induction calls generalizing assembly with
  | nil => exact hstart
  | cons call rest ih => exact ih (h call assembly hstart)

end Calls

/-! ### Tracing and the calls -/

/-- An assembly over a traced source, and the same assembly over the source alone. -/
structure Shadows (traced : Assembly (Traced σ) ι) (plain : Assembly σ ι) : Prop where
  config : traced.config = plain.config.traced
  request : traced.request = plain.request
  source : traced.source.Holds plain.source
  phase : traced.phase = plain.phase

theorem Shadows.exists_eq {traced : Assembly (Traced σ) ι} {plain : Assembly σ ι}
    (h : Shadows traced plain) : ∃ trace,
      traced = ⟨plain.config.traced, plain.request, ⟨plain.source, trace⟩, plain.phase⟩ := by
  obtain ⟨_, _, ⟨_, trace⟩, _⟩ := traced
  obtain ⟨rfl, rfl, rfl, rfl⟩ := h
  exact ⟨trace, rfl⟩

theorem lockstep_validate :
    Action.Lockstep (Shadows (σ := σ) (ι := ι)) validate validate := by
  rintro traced ⟨config, request, source, phase⟩ h
  obtain ⟨trace, rfl⟩ := h.exists_eq
  cases phase with
  | pending =>
    simp only [validate, Query.ofRequest_traced]
    cases Query.ofRequest config request <;> exact ⟨⟨rfl, rfl, rfl, rfl⟩, rfl⟩
  | _ => exact ⟨⟨rfl, rfl, rfl, rfl⟩, rfl⟩

theorem lockstep_applyQuery :
    Action.Lockstep (Shadows (σ := σ) (ι := ι)) applyQuery applyQuery := by
  rintro traced ⟨config, request, source, phase⟩ h
  obtain ⟨trace, rfl⟩ := h.exists_eq
  cases phase with
  | validated query =>
    obtain ⟨hstate, hresult⟩ := query.lockstep_apply config ⟨source, trace⟩ source rfl
    simp only [applyQuery, hresult]
    cases (query.apply config source).result <;> exact ⟨⟨rfl, rfl, hstate, rfl⟩, rfl⟩
  | _ => exact ⟨⟨rfl, rfl, rfl, rfl⟩, rfl⟩

theorem lockstep_apply : Action.Lockstep (Shadows (σ := σ) (ι := ι)) apply apply :=
  Action.lockstep_bind lockstep_validate fun _ => lockstep_applyQuery

variable [Representable ι]

theorem lockstep_fetchDocument :
    Action.Lockstep (Shadows (σ := σ) (ι := ι)) fetchDocument fetchDocument := by
  rintro traced ⟨config, request, source, phase⟩ h
  obtain ⟨trace, rfl⟩ := h.exists_eq
  cases phase with
  | applied query =>
    let window := query.window
    have hresult : ((Source.fetch window.limit window.offset : Action (Traced σ) (Page ι))
        ⟨source, trace⟩).result = (Source.fetch window.limit window.offset source).result := rfl
    have hrenderer : config.traced.renderer = config.renderer := rfl
    simp only [fetchDocument, window] at hresult ⊢
    rw [hresult, hrenderer]
    generalize (Except.bind _ _ : Except Error Document) = shown
    cases shown <;> exact ⟨⟨rfl, rfl, rfl, rfl⟩, rfl⟩
  | _ => exact ⟨⟨rfl, rfl, rfl, rfl⟩, rfl⟩

theorem lockstep_assemble : Action.Lockstep (Shadows (σ := σ) (ι := ι)) assemble assemble :=
  Action.lockstep_bind lockstep_apply fun _ => lockstep_fetchDocument

/-- **Tracing is not noticed.**  A call of the traced assembly answers as the call of the
    plain one, and leaves the same source in the same phase. -/
theorem lockstep_perform (call : Call) :
    Action.Lockstep (Shadows (σ := σ) (ι := ι)) (perform call) (perform call) := by
  cases call with
  | validate => exact Action.lockstep_bind lockstep_validate fun _ => Action.lockstep_pure _ _
  | apply => exact Action.lockstep_bind lockstep_apply fun _ => Action.lockstep_pure _ _
  | assemble => exact Action.lockstep_bind lockstep_assemble fun _ => Action.lockstep_pure _ _

theorem shadows_run (calls : List Call) {traced : Assembly (Traced σ) ι} {plain : Assembly σ ι}
    (h : Shadows traced plain) : Shadows (run calls traced) (run calls plain) := by
  induction calls generalizing traced plain with
  | nil => exact h
  | cons call rest ih => exact ih (lockstep_perform call traced plain h).1

end Assembly

end Listing
