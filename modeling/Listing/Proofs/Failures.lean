/-
  Listing/Proofs/Failures.lean
  ============================
  **Where making a document fails.**

  Steps in a row fail at one of them, after all before it have succeeded
  (`all_map_eq_error_iff`, `mapM_eq_error_iff`).  Making a document is a row of
  rows: validating, one step for every token and one for every sort key, fetching,
  and showing the items one by one.  `FailsAt` tells of an assembly which of them
  is the one that fails, in terms of the steps before it, and
  `assemble_eq_error_iff` says that an error comes from just these places.
  `FailsOnly` is about the errors instead of the places: a property that every
  error of a row has when the errors of its steps have it.
-/
import Listing.Proofs.Account

namespace Listing

variable {σ ι α β : Type}

/-! ### Failures in a row -/

namespace Except

theorem map_eq_error_iff {ε : Type} {f : α → β} {result : Except ε α} {e : ε} :
    result.map f = .error e ↔ result = .error e := by
  cases result with
  | error e' => simp [Except.map]
  | ok a => simp [Except.map]

theorem bind_eq_error_iff {ε : Type} {f : α → Except ε β} {result : Except ε α} {e : ε} :
    result.bind f = .error e ↔ result = .error e ∨ ∃ a, result = .ok a ∧ f a = .error e := by
  cases result with
  | error e' => simp [Except.bind]
  | ok a => simp [Except.bind]

end Except

/-- A function that is run on the items of a list fails on the first item that it fails on. -/
theorem mapM_eq_error_iff {ε : Type} {f : α → Except ε β} {xs : List α} {e : ε} :
    xs.mapM f = .error e ↔ ∃ before x after, xs = before ++ x :: after ∧
      (∃ ys, before.mapM f = .ok ys) ∧ f x = .error e := by
  induction xs with
  | nil =>
    constructor
    · intro h
      cases h
    · rintro ⟨before, x, after, hsplit, -⟩
      simp at hsplit
  | cons y rest ih =>
    rw [List.mapM_cons]
    constructor
    · intro h
      rcases Except.bind_eq_error_iff.1 h with hy | ⟨z, hz, hrest⟩
      · exact ⟨[], y, rest, rfl, ⟨[], rfl⟩, hy⟩
      · have hfailed : rest.mapM f = .error e := by
          rcases Except.bind_eq_error_iff.1 hrest with h | ⟨zs, -, h⟩
          · exact h
          · cases h
        obtain ⟨before, x, after, rfl, ⟨ys, hys⟩, hx⟩ := ih.1 hfailed
        refine ⟨y :: before, x, after, rfl, ⟨z :: ys, ?_⟩, hx⟩
        exact mapM_eq_ok_iff.2 (.cons hz (mapM_eq_ok_iff.1 hys))
    · rintro ⟨before, x, after, hsplit, ⟨ys, hys⟩, hx⟩
      cases before with
      | nil =>
        cases hsplit
        exact Except.bind_eq_error_iff.2 (.inl hx)
      | cons first others =>
        cases hsplit
        cases mapM_eq_ok_iff.1 hys with
        | @cons _ z _ zs hz hzs =>
          have hfailed : (others ++ x :: after).mapM f = .error e :=
            ih.2 ⟨others, x, after, rfl, ⟨zs, mapM_eq_ok_iff.2 hzs⟩, hx⟩
          exact Except.bind_eq_error_iff.2
            (.inr ⟨z, hz, Except.bind_eq_error_iff.2 (.inl hfailed)⟩)

namespace Action

theorem result_bind_eq_error_iff {first : Action σ α} {next : α → Action σ β} {s : σ}
    {error : Error} :
    (first.bind next s).result = .error error ↔ (first s).result = .error error ∨
      ∃ a, (first s).result = .ok a ∧ (next a (first s).state).result = .error error := by
  cases h : (first s).result with
  | error e => simp [result_bind_error h]
  | ok a => simp [result_bind_ok h]

/-- Of the actions for the items of a list, those before some item succeed, and the action for
    that item fails. -/
structure StopsAt (f : α → Action σ Unit) (xs : List α) (s : σ) (error : Error)
    (before : List α) (x : α) (after : List α) : Prop where
  split : xs = before ++ x :: after
  passed : (all (before.map f) s).result = .ok ()
  failed : (f x (all (before.map f) s).state).result = .error error

theorem all_map_eq_error_iff {f : α → Action σ Unit} {xs : List α} {s : σ} {error : Error} :
    (all (xs.map f) s).result = .error error ↔
      ∃ before x after, StopsAt f xs s error before x after := by
  constructor
  · intro h
    induction xs generalizing s with
    | nil => cases h
    | cons y rest ih =>
      rcases result_bind_eq_error_iff.1 h with hy | ⟨u, hu, hrest⟩
      · exact ⟨[], y, rest, rfl, rfl, hy⟩
      · obtain ⟨before, x, after, rfl, hpassed, hfailed⟩ := ih hrest
        refine ⟨y :: before, x, after, rfl, ?_, ?_⟩
        · exact (result_bind_ok hu).trans hpassed
        · have hstate : (all ((y :: before).map f) s).state
              = (all (before.map f) (f y s).state).state := state_bind_ok hu
          rw [hstate]
          exact hfailed
  · rintro ⟨before, x, after, rfl, hpassed, hfailed⟩
    rw [List.map_append, all_append, result_bind_ok hpassed]
    exact result_bind_error hfailed

end Action

/-! ### Errors of a kind -/

/-- Whenever the result is an error, it has the property. -/
def Except.FailsOnly (P : Error → Prop) (result : Except Error α) : Prop :=
  ∀ error, result = .error error → P error

namespace Except

variable {P : Error → Prop}

theorem failsOnly_ok (a : α) : FailsOnly P (.ok a) := by
  intro error h
  cases h

theorem failsOnly_error {error : Error} (h : P error) :
    FailsOnly P (.error error : Except Error α) := by
  intro other heq
  cases heq
  exact h

theorem FailsOnly.map {f : α → β} {result : Except Error α} (h : FailsOnly P result) :
    FailsOnly P (result.map f) := by
  intro error herror
  exact h error (map_eq_error_iff.1 herror)

theorem FailsOnly.bind {f : α → Except Error β} {result : Except Error α}
    (h : FailsOnly P result) (hf : ∀ a, FailsOnly P (f a)) : FailsOnly P (result.bind f) := by
  intro error herror
  rcases bind_eq_error_iff.1 herror with hresult | ⟨a, -, ha⟩
  · exact h error hresult
  · exact hf a error ha

theorem failsOnly_mapM {f : α → Except Error β} (h : ∀ x, FailsOnly P (f x)) (xs : List α) :
    FailsOnly P (xs.mapM f) := by
  intro error herror
  obtain ⟨_, x, _, _, _, hx⟩ := mapM_eq_error_iff.1 herror
  exact h x error hx

end Except

namespace Action

variable {P : Error → Prop}

/-- Whenever the action fails, its error has the property. -/
def FailsOnly (P : Error → Prop) (action : Action σ α) : Prop :=
  ∀ s, Except.FailsOnly P (action s).result

theorem failsOnly_fail {error : Error} (h : P error) :
    FailsOnly P (fail error : Action σ α) := fun _ => Except.failsOnly_error h

theorem failsOnly_ofExcept {result : Except Error α} (h : Except.FailsOnly P result) :
    FailsOnly P (ofExcept result : Action σ α) := fun _ => h

theorem failsOnly_pure (a : α) : FailsOnly P (pure a : Action σ α) :=
  fun _ => Except.failsOnly_ok a

theorem failsOnly_record (event : Event) : FailsOnly P (record event : Action σ Unit) :=
  fun _ => Except.failsOnly_ok ()

theorem FailsOnly.bind {first : Action σ α} {next : α → Action σ β} (hfirst : FailsOnly P first)
    (hnext : ∀ a, FailsOnly P (next a)) : FailsOnly P (first.bind next) := by
  intro s error herror
  rcases result_bind_eq_error_iff.1 herror with hresult | ⟨a, -, ha⟩
  · exact hfirst s error hresult
  · exact hnext a _ error ha

end Action

section Applying

variable [Source σ ι]

/-! ### Queries -/

namespace Query

def applyTokens (config : Config σ ι) (query : Query) : Action σ Unit :=
  Action.all (query.filters.carried.map fun token => applyToken config token.1 token.2)

def applySortKeys (config : Config σ ι) (query : Query) : Action σ Unit :=
  Action.all (query.sort.map (applySortKey config))

theorem apply_eq (config : Config σ ι) (query : Query) :
    query.apply config = (query.applyTokens config).bind fun _ => query.applySortKeys config := by
  rw [apply, steps_eq, Action.all_append]
  rfl

end Query

/-! ### Places -/

/-- The parts of making a document that can fail. -/
inductive Stage where
  | validating
  /-- Going on after a query has failed halfway. -/
  | resuming
  | filtering
  | sorting
  | fetching
  | showing
deriving DecidableEq, Repr

namespace Assembly

/-- The query is the valid one of the request, and is still to be applied. -/
inductive Awaits (assembly : Assembly σ ι) (query : Query) : Prop
  | pending (fresh : assembly.phase = .pending)
      (valid : Query.ofRequest assembly.config assembly.request = .ok query)
  | validated (checked : assembly.phase = .validated query)

/-- The query is applied, and has left the source in this state. -/
inductive Applied (assembly : Assembly σ ι) (query : Query) : σ → Prop
  | now (awaits : assembly.Awaits query)
      (passed : (query.apply assembly.config assembly.source).result = .ok ()) :
      Applied assembly query (query.apply assembly.config assembly.source).state
  | before (applied : assembly.phase = .applied query) : Applied assembly query assembly.source

/-- An assembly fails at a stage with an error: everything before has succeeded, and this is
    where the error comes from. -/
inductive FailsAt [Representable ι] (assembly : Assembly σ ι) (error : Error) : Stage → Prop
  | validating (fresh : assembly.phase = .pending)
      (failed : Query.ofRequest assembly.config assembly.request = .error error) :
      FailsAt assembly error .validating
  | resuming (poisoned : assembly.phase = .poisoned) (failed : error = poisonedError) :
      FailsAt assembly error .resuming
  | filtering {query : Query} {before after : List (String × String)} {token : String × String}
      (awaits : assembly.Awaits query)
      (stops : Action.StopsAt (fun token => Query.applyToken assembly.config token.1 token.2)
        query.filters.carried assembly.source error before token after) :
      FailsAt assembly error .filtering
  | sorting {query : Query} {before after : SortKeys} {key : String × Direction}
      (awaits : assembly.Awaits query)
      (filtered : (query.applyTokens assembly.config assembly.source).result = .ok ())
      (stops : Action.StopsAt (Query.applySortKey assembly.config) query.sort
        (query.applyTokens assembly.config assembly.source).state error before key after) :
      FailsAt assembly error .sorting
  | fetching {query : Query} {source : σ} (applied : assembly.Applied query source)
      (failed : (Source.fetch query.window.limit query.window.offset source).result
        = .error error) :
      FailsAt assembly error .fetching
  | showing {query : Query} {source : σ} {page : Page ι} {before after : List ι} {item : ι}
      (applied : assembly.Applied query source)
      (fetched : (Source.fetch query.window.limit query.window.offset source).result = .ok page)
      (split : page.items = before ++ item :: after)
      (shown : ∃ forms,
        before.mapM (renderItem assembly.config.renderer query.detail) = .ok forms)
      (failed : renderItem assembly.config.renderer query.detail item = .error error) :
      FailsAt assembly error .showing

/-! ### Phases one by one -/

variable {assembly : Assembly σ ι} {query : Query} {error : Error}

omit [Source σ ι] in
theorem phase_cases (assembly : Assembly σ ι) :
    (∃ error, assembly.phase = .pending ∧
        Query.ofRequest assembly.config assembly.request = .error error) ∨
      assembly.phase = .poisoned ∨ (∃ query, assembly.Awaits query) ∨
      (∃ query, assembly.phase = .applied query) ∨
      ∃ document, assembly.phase = .assembled document := by
  cases hphase : assembly.phase with
  | pending =>
    cases hvalid : Query.ofRequest assembly.config assembly.request with
    | error e => exact .inl ⟨e, rfl, rfl⟩
    | ok query => exact .inr (.inr (.inl ⟨query, .pending hphase hvalid⟩))
  | validated query => exact .inr (.inr (.inl ⟨query, .validated hphase⟩))
  | applied query => exact .inr (.inr (.inr (.inl ⟨query, rfl⟩)))
  | assembled document => exact .inr (.inr (.inr (.inr ⟨document, rfl⟩)))
  | poisoned => exact .inr (.inl rfl)

omit [Source σ ι] in
/-- A request in which nothing is wrong waits to be applied. -/
theorem awaits_start {config : Config σ ι} {request : Request}
    (h : config.violations request = .ok []) (source : σ) :
    (start config request source).Awaits (Query.read config request) :=
  .pending rfl (Query.ofRequest_eq_ok_iff.2 ⟨Config.violations_eq_nil_iff.1 h, rfl⟩)

omit [Source σ ι] in
theorem validate_of_invalid (fresh : assembly.phase = .pending)
    (invalid : Query.ofRequest assembly.config assembly.request = .error error) :
    (validate assembly).result = .error error := by
  simp only [validate, fresh, invalid]

omit [Source σ ι] in
theorem validate_of_poisoned (poisoned : assembly.phase = .poisoned) :
    (validate assembly).result = .error poisonedError := by
  simp only [validate, poisoned]

/-- Applying a query that waits does what the query does. -/
theorem Awaits.apply_eq (h : assembly.Awaits query) :
    (apply assembly).result = (query.apply assembly.config assembly.source).result ∧
      ((query.apply assembly.config assembly.source).result = .ok () →
        (apply assembly).state =
          { assembly with
            source := (query.apply assembly.config assembly.source).state
            phase := .applied query }) := by
  obtain ⟨config, request, source, phase⟩ := assembly
  have hvalidate : (validate ⟨config, request, source, phase⟩).result = .ok () ∧
      (validate ⟨config, request, source, phase⟩).state
        = ⟨config, request, source, .validated query⟩ := by
    cases h with
    | pending fresh valid =>
      cases fresh
      simp only at valid
      simp only [validate, valid, and_self]
    | validated checked =>
      cases checked
      exact ⟨rfl, rfl⟩
  have hresult : (apply ⟨config, request, source, phase⟩).result
      = (applyQuery ⟨config, request, source, .validated query⟩).result :=
    (Action.result_bind_ok hvalidate.1).trans (by rw [hvalidate.2])
  have hstate : (apply ⟨config, request, source, phase⟩).state
      = (applyQuery ⟨config, request, source, .validated query⟩).state :=
    (Action.state_bind_ok hvalidate.1).trans (by rw [hvalidate.2])
  rw [hresult, hstate]
  simp only [applyQuery]
  cases (query.apply config source).result with
  | error e =>
    refine ⟨rfl, ?_⟩
    intro hok
    cases hok
  | ok u => exact ⟨rfl, fun _ => rfl⟩

variable [Representable ι]

/-- With the query applied, what is left is to fetch and show the page. -/
theorem Applied.result_assemble {source : σ} (h : assembly.Applied query source) :
    (assemble assembly).result
      = (Source.fetch query.window.limit query.window.offset source).result.bind fun page =>
          (page.items.mapM (renderItem assembly.config.renderer query.detail)).map
            (document assembly.request query page.total) := by
  have happly : (apply assembly).result = .ok () ∧
      (apply assembly).state = { assembly with source := source, phase := .applied query } := by
    cases h with
    | now awaits passed => exact ⟨awaits.apply_eq.1.trans passed, awaits.apply_eq.2 passed⟩
    | before applied =>
      obtain ⟨config, request, source, phase⟩ := assembly
      cases applied
      exact ⟨rfl, rfl⟩
  have hfetch : (assemble assembly).result
      = (fetchDocument { assembly with source := source, phase := .applied query }).result :=
    (Action.result_bind_ok happly.1).trans (by rw [happly.2])
  rw [hfetch]
  simp only [fetchDocument]
  generalize (Except.bind _ _ : Except Error Document) = shown
  cases shown <;> rfl

theorem Applied.assemble_eq_error_iff {source : σ} (h : assembly.Applied query source) :
    (assemble assembly).result = .error error ↔
      (Source.fetch query.window.limit query.window.offset source).result = .error error ∨
      ∃ page, (Source.fetch query.window.limit query.window.offset source).result = .ok page ∧
        page.items.mapM (renderItem assembly.config.renderer query.detail) = .error error := by
  rw [h.result_assemble, Except.bind_eq_error_iff]
  simp only [Except.map_eq_error_iff]

/-- What is applied fails in one of two places. -/
theorem Applied.exists_failsAt {source : σ} (h : assembly.Applied query source)
    (hfails : (assemble assembly).result = .error error) : ∃ stage, assembly.FailsAt error stage := by
  rcases h.assemble_eq_error_iff.1 hfails with hfetch | ⟨page, hpage, hshow⟩
  · exact ⟨.fetching, .fetching h hfetch⟩
  · obtain ⟨before, item, after, hsplit, hshown, hfailed⟩ := mapM_eq_error_iff.1 hshow
    exact ⟨.showing, .showing h hpage hsplit hshown hfailed⟩

/-- A query that fails while it waits is what making the document fails with. -/
theorem Awaits.result_assemble_of_error (h : assembly.Awaits query)
    (hfails : (query.apply assembly.config assembly.source).result = .error error) :
    (assemble assembly).result = .error error :=
  Action.result_bind_error (h.apply_eq.1.trans hfails)

/-- What waits fails at a token, at a sort key, or after them. -/
theorem Awaits.exists_failsAt (h : assembly.Awaits query)
    (hfails : (assemble assembly).result = .error error) : ∃ stage, assembly.FailsAt error stage := by
  cases happly : (query.apply assembly.config assembly.source).result with
  | ok u => exact (Applied.now h happly).exists_failsAt hfails
  | error e =>
    cases (h.result_assemble_of_error happly).symm.trans hfails
    rw [Query.apply_eq] at happly
    rcases Action.result_bind_eq_error_iff.1 happly with htokens | ⟨u, htokens, hkeys⟩
    · obtain ⟨before, token, after, hstops⟩ := Action.all_map_eq_error_iff.1 htokens
      exact ⟨.filtering, .filtering h hstops⟩
    · obtain ⟨before, key, after, hstops⟩ := Action.all_map_eq_error_iff.1 hkeys
      exact ⟨.sorting, .sorting h htokens hstops⟩

theorem result_assemble_of_validate_error (h : (validate assembly).result = .error error) :
    (assemble assembly).result = .error error :=
  Action.result_bind_error (Action.result_bind_error h)

theorem result_assemble_of_assembled {document : Document}
    (h : assembly.phase = .assembled document) : (assemble assembly).result = .ok document := by
  obtain ⟨config, request, source, phase⟩ := assembly
  cases h
  rfl

/-- **An error comes from one of the stages, and from where that stage says.** -/
theorem assemble_eq_error_iff :
    (assemble assembly).result = .error error ↔ ∃ stage, assembly.FailsAt error stage := by
  constructor
  · intro hfails
    rcases phase_cases assembly with ⟨e, hphase, hinvalid⟩ | hphase | ⟨query, hawaits⟩ |
      ⟨query, hphase⟩ | ⟨document, hphase⟩
    · have hresult := result_assemble_of_validate_error (validate_of_invalid hphase hinvalid)
      cases hresult.symm.trans hfails
      exact ⟨.validating, .validating hphase hinvalid⟩
    · have hresult := result_assemble_of_validate_error (validate_of_poisoned hphase)
      cases hresult.symm.trans hfails
      exact ⟨.resuming, .resuming hphase rfl⟩
    · exact hawaits.exists_failsAt hfails
    · exact (Applied.before hphase).exists_failsAt hfails
    · cases (result_assemble_of_assembled hphase).symm.trans hfails
  · rintro ⟨stage, hstage⟩
    cases hstage with
    | validating fresh failed =>
      exact result_assemble_of_validate_error (validate_of_invalid fresh failed)
    | resuming poisoned failed =>
      rw [failed]
      exact result_assemble_of_validate_error (validate_of_poisoned poisoned)
    | @filtering query before after token awaits stops =>
      refine awaits.result_assemble_of_error ?_
      rw [Query.apply_eq]
      refine Action.result_bind_error ?_
      exact Action.all_map_eq_error_iff.2 ⟨before, token, after, stops⟩
    | @sorting query before after key awaits filtered stops =>
      refine awaits.result_assemble_of_error ?_
      rw [Query.apply_eq, Action.result_bind_ok filtered]
      exact Action.all_map_eq_error_iff.2 ⟨before, key, after, stops⟩
    | fetching applied failed => exact applied.assemble_eq_error_iff.2 (.inl failed)
    | @showing query source page before after item applied fetched split shown failed =>
      refine applied.assemble_eq_error_iff.2 (.inr ⟨page, fetched, ?_⟩)
      exact mapM_eq_error_iff.2 ⟨before, item, after, split, shown, failed⟩

end Assembly

end Applying

end Listing
