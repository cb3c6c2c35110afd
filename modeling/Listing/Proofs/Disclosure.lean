/-
  Listing/Proofs/Disclosure.lean
  ==============================
  **What a client learns when the server fails.**

  Errors carry a lot: names from the request, parameters, the words of the database
  or of a remote service, the refusal of an item.  `Stage.sentence?` is a table of
  fixed sentences, one for each stage that can fail and each kind of error that it
  can fail with.  An error that is not the client's fault is answered with nothing
  but the sentence of its place (`failures_disclose_nothing`), so that two failures
  of one kind at one place cannot be told apart by their responses.

  Every place where an error is made is looked at once: an action fails only with
  errors that its stage `Tells`, and that is carried through the steps that lead
  there.
-/
import Listing.Proofs.Failures
import Listing.Proofs.TableQueries
import Listing.Remote.Source

namespace Listing

variable {σ ι α β : Type}

/-! ### Kinds of errors -/

/-- The variants of an error, without what it carries. -/
inductive ErrorKind where
  | configuration
  | validation
  | unsupportedOperator
  | database
  | backend
  | internal
deriving DecidableEq, Repr

def Error.kind : Error → ErrorKind
  | .configuration _ => .configuration
  | .validation _ => .validation
  | .unsupportedOperator .. => .unsupportedOperator
  | .database _ => .database
  | .backend _ => .backend
  | .internal .. => .internal

namespace ErrorKind

def status : ErrorKind → Status
  | .validation => .unprocessable
  | .backend => .badGateway
  | .configuration | .unsupportedOperator | .database | .internal => .serverError

/-- The response that holds one sentence and nothing else. -/
def answer (kind : ErrorKind) (sentence : String) : Response :=
  ⟨kind.status, "application/json", .object [("error", .string sentence)]⟩

end ErrorKind

theorem Error.status_eq (error : Error) : error.status = error.kind.status := by
  cases error <;> rfl

/-! ### The sentences -/

namespace Stage

/-- What a client is told when a stage fails with a kind of error; none for the kinds that the
    stage does not fail with, and for violations, which are the client's own. -/
def sentence? : Stage → ErrorKind → Option String
  | .validating, .configuration => some "The collection is not configured correctly"
  | .resuming, .internal => some "Collection could not be assembled"
  | .filtering, .unsupportedOperator => some "The collection is not configured correctly"
  | .filtering, .backend => some "The upstream service failed to answer"
  | .filtering, .internal => some "Filter could not be applied"
  | .sorting, .internal => some "Sort could not be applied"
  | .fetching, .database => some "A database error occurred"
  | .fetching, .backend => some "The upstream service failed to answer"
  | .showing, .internal => some "Failed to render item"
  | _, _ => none

/-- The stage has a sentence for the error, and the error's message is that sentence. -/
def Tells (stage : Stage) (error : Error) : Prop :=
  stage.sentence? error.kind = some error.userMessage

theorem Tells.response_eq {stage : Stage} {error : Error} (h : stage.Tells error) :
    error.response = error.kind.answer error.userMessage := by
  cases error with
  | validation violations =>
    have hnone : stage.sentence? .validation = none := by cases stage <;> rfl
    rw [Tells, Error.kind, hnone] at h
    cases h
  | _ => rfl

/-- None of the sentences needs an escape. -/
theorem bodyText_answer {stage : Stage} {kind : ErrorKind} {sentence : String}
    (h : stage.sentence? kind = some sentence) :
    (kind.answer sentence).bodyText = "\x7b\"error\":\"" ++ sentence ++ "\"\x7d" := by
  unfold sentence? at h
  split at h <;> cases h <;> decide +kernel

end Stage

/-! ### Sources -/

theorem tells_missingParameter (op : Operator) (params : List String) :
    Stage.filtering.Tells (missingParameter op params) := rfl

theorem failsOnly_paramAt (op : Operator) (params : List String) (index : Nat) :
    Except.FailsOnly Stage.filtering.Tells (paramAt op params index) := by
  unfold paramAt
  split
  · exact Except.failsOnly_ok _
  · exact Except.failsOnly_error (tells_missingParameter op params)

theorem failsOnly_someParams (op : Operator) (params : List String) :
    Except.FailsOnly Stage.filtering.Tells (someParams op params) := by
  unfold someParams
  split
  · exact Except.failsOnly_error (tells_missingParameter op params)
  · exact Except.failsOnly_ok _

/-- What a source fails with is told at the stage where it was asked. -/
structure Source.Discreet (σ : Type) {ι : Type} [Source σ ι] : Prop where
  addFilter : ∀ field kind op params, Action.FailsOnly Stage.filtering.Tells
    (Source.addFilter field kind op params : Action σ Unit)
  addSort : ∀ field direction, Action.FailsOnly Stage.sorting.Tells
    (Source.addSort field direction : Action σ Unit)
  fetch : ∀ limit offset, Action.FailsOnly Stage.fetching.Tells
    (Source.fetch limit offset : Action σ (Page ι))

namespace Memory

theorem failsOnly_predicate (op : Operator) (params : List String) :
    Except.FailsOnly Stage.filtering.Tells (predicate op params) := by
  have hcomparing : ∀ test,
      Except.FailsOnly Stage.filtering.Tells (comparingFirst op params test) :=
    fun _ => (failsOnly_paramAt op params 0).map
  have hmatching : ∀ test,
      Except.FailsOnly Stage.filtering.Tells (matchingFirst op params test) :=
    fun _ => (failsOnly_paramAt op params 0).map
  have hrange : ∀ result : String → String → Predicate,
      Except.FailsOnly Stage.filtering.Tells
        ((paramAt op params 0).bind fun low => (paramAt op params 1).bind fun high =>
          .ok (result low high)) := fun _ =>
    (failsOnly_paramAt op params 0).bind fun _ =>
      (failsOnly_paramAt op params 1).bind fun _ => Except.failsOnly_ok _
  cases op with
  | empty | notEmpty => exact Except.failsOnly_ok _
  | eq | lt | gt | lte | gte => exact hcomparing _
  | ne => exact (hcomparing _).map
  | startsWith | endsWith | contains => exact hmatching _
  | notStartsWith | notEndsWith | notContains => exact (hmatching _).map
  | between | notBetween => exact hrange _
  | isIn | notIn => exact (failsOnly_someParams _ params).map

theorem discreet : Source.Discreet (Memory ι) where
  addFilter := by
    intro field kind op params memory error h
    cases hpredicate : predicate op params with
    | ok holds =>
      rw [addFilter_of_predicate hpredicate] at h
      cases h
    | error e =>
      have hsame : (Source.addFilter field kind op params memory).result = .error e := by
        change (addFilter field op params memory).result = .error e
        rw [addFilter, hpredicate]
      cases hsame.symm.trans h
      exact failsOnly_predicate op params _ hpredicate
  addSort := by
    intro field direction memory error h
    cases h
  fetch := by
    intro limit offset memory error h
    cases h

end Memory

namespace Relational

/-- A page is fetched from a count and rows. -/
theorem result_fetch_of_replies {source : Relational ι} {total : Nat} {items : List ι}
    {rest : List (Reply ι)} (h : source.database.replies = .count total :: .rows items :: rest)
    {limit offset : Nat} : (Source.fetch limit offset source).result = .ok ⟨items, total⟩ := by
  have hfirst : source.database.reply 0 = .count total := by rw [Database.reply, h]; rfl
  have hsecond : source.database.reply 1 = .rows items := by rw [Database.reply, h]; rfl
  have hcount : Database.countOf source.counted.2 = .ok total := by
    rw [counted_eq, hfirst]
    rfl
  rw [(fetch_of_ok hcount).2, paged_eq, hsecond]
  rfl

theorem failsOnly_coerce (kind : ValueKind) (raw : String) :
    Except.FailsOnly Stage.filtering.Tells (coerce kind raw) := by
  unfold coerce
  split
  · exact Except.failsOnly_ok _
  · exact Except.failsOnly_error rfl

theorem failsOnly_condition (field : String) (kind : ValueKind) (op : Operator)
    (params : List String) :
    Except.FailsOnly Stage.filtering.Tells (condition field kind op params) := by
  have hvalue : ∀ index, Except.FailsOnly Stage.filtering.Tells
      ((paramAt op params index).bind (coerce kind)) := fun index =>
    (failsOnly_paramAt op params index).bind (failsOnly_coerce kind)
  have hcomparing : ∀ comparison, Except.FailsOnly Stage.filtering.Tells
      (comparing ⟨none, field⟩ kind op params comparison) := fun _ =>
    (failsOnly_paramAt op params 0).bind fun raw =>
      (failsOnly_coerce kind raw).bind fun _ => Except.failsOnly_ok _
  have hmatching : ∀ negated anchor, Except.FailsOnly Stage.filtering.Tells
      (matching ⟨none, field⟩ op params negated anchor) := fun _ _ =>
    (failsOnly_paramAt op params 0).map
  have hbounds : ∀ negated, Except.FailsOnly Stage.filtering.Tells
      (bounds ⟨none, field⟩ kind op params negated) := fun _ =>
    (failsOnly_paramAt op params 0).bind fun low => (failsOnly_coerce kind low).bind fun _ =>
      (failsOnly_paramAt op params 1).bind fun high => (failsOnly_coerce kind high).bind fun _ =>
        Except.failsOnly_ok _
  have hlisted : ∀ negated, Except.FailsOnly Stage.filtering.Tells
      (listed ⟨none, field⟩ kind op params negated) := fun _ =>
    (failsOnly_someParams op params).bind fun some =>
      (Except.failsOnly_mapM (failsOnly_coerce kind) some).bind fun _ => Except.failsOnly_ok _
  cases op with
  | empty | notEmpty => exact Except.failsOnly_ok _
  | eq | lt | gt | lte | gte => exact hcomparing _
  | ne => exact (hcomparing _).map
  | startsWith | endsWith | contains => exact hmatching _ _
  | notStartsWith | notEndsWith | notContains => exact (hmatching _ _).map
  | between => exact hbounds _
  | notBetween => exact (hbounds _).map
  | isIn | notIn => exact hlisted _

theorem discreet : Source.Discreet (Relational ι) where
  addFilter := by
    intro field kind op params source error h
    cases hcondition : condition field kind op params with
    | ok e =>
      rw [addFilter_of_condition hcondition] at h
      cases h
    | error e =>
      have hsame : (Source.addFilter field kind op params source).result = .error e := by
        change (addFilter field kind op params source).result = .error e
        rw [addFilter, hcondition]
      cases hsame.symm.trans h
      exact failsOnly_condition field kind op params _ hcondition
  addSort := by
    intro field direction source error h
    cases h
  fetch := by
    intro limit offset source
    have hsend : ∀ statement, Action.FailsOnly Stage.fetching.Tells
        (send statement : Action (Relational ι) (Reply ι)) :=
      fun _ _ => Except.failsOnly_ok _
    have hcount : ∀ reply : Reply ι,
        Except.FailsOnly Stage.fetching.Tells (Database.countOf reply) := by
      intro reply error h
      obtain ⟨fault, rfl⟩ := Database.exists_fault_of_countOf h
      rfl
    have hrows : ∀ columns (reply : Reply ι),
        Except.FailsOnly Stage.fetching.Tells (Database.rowsOf columns reply) := by
      intro columns reply error h
      obtain ⟨fault, rfl⟩ := Database.exists_fault_of_rowsOf h
      rfl
    refine Action.FailsOnly.bind (hsend _) (fun counted => ?_) source
    refine (Action.failsOnly_ofExcept (hcount counted)).bind fun total => ?_
    refine (hsend _).bind fun answered => ?_
    refine (Action.failsOnly_ofExcept (hrows _ answered)).bind fun items => ?_
    exact (Action.failsOnly_record _).bind fun _ => Action.failsOnly_pure _

end Relational

/-- What the client fails with are failures of its service. -/
structure Client.FailsAsBackend (κ : Type) {ι : Type} [Client κ ι] : Prop where
  pushFilter : ∀ field op params, Action.FailsOnly (fun error => error.kind = .backend)
    (Client.pushFilter field op params : Action κ Unit)
  fetchPage : ∀ limit offset, Action.FailsOnly (fun error => error.kind = .backend)
    (Client.fetchPage limit offset : Action κ (Page ι))

namespace RecordingClient

theorem failsAsBackend : Client.FailsAsBackend (RecordingClient ι) where
  pushFilter := by
    intro field op params client error h
    simp only [Client.pushFilter, RecordingClient.pushFilter] at h
    split at h
    · cases h
      rfl
    · cases h
  fetchPage := by
    intro limit offset client error h
    simp only [Client.fetchPage, RecordingClient.fetchPage] at h
    split at h
    · cases h
      rfl
    · cases h

end RecordingClient

namespace Remote

variable {κ : Type} [Client κ ι]

/-- A failure of the service is told where it is met, and in the same words. -/
theorem failsOnly_onClient {stage : Stage} {step : Action κ α}
    (hstage : stage.sentence? .backend = some "The upstream service failed to answer")
    (h : Action.FailsOnly (fun error => error.kind = .backend) step) :
    Action.FailsOnly stage.Tells (onClient step) := by
  intro source error herror
  have hkind : error.kind = .backend := h source.client error herror
  cases error with
  | backend reason => exact hstage
  | _ => cases hkind

theorem discreet (h : Client.FailsAsBackend κ) : Source.Discreet (Remote κ) where
  addFilter := by
    intro field kind op params
    change Action.FailsOnly _ (addFilter field op params)
    unfold addFilter
    split
    · exact failsOnly_onClient rfl (h.pushFilter field op params)
    · exact Action.failsOnly_fail rfl
  addSort := by
    intro field direction source error herror
    cases herror
  fetch := by
    intro limit offset
    refine (failsOnly_onClient rfl (h.fetchPage limit offset)).bind fun page => ?_
    exact (Action.failsOnly_record _).bind fun _ => Action.failsOnly_pure _

end Remote

/-- The sources of the library: in memory, over a table, and behind a client whose failures are
    those of its service. -/
inductive Source.Provided : {σ ι : Type} → Source σ ι → Prop
  | memory {ι : Type} : Provided (inferInstance : Source (Memory ι) ι)
  | table {ι : Type} : Provided (inferInstance : Source (Relational ι) ι)
  | remote {κ ι : Type} [Client κ ι] (h : Client.FailsAsBackend κ) :
      Provided (inferInstance : Source (Remote κ) ι)

theorem Source.Provided.discreet {source : Source σ ι} (h : source.Provided) :
    Source.Discreet σ := by
  cases h with
  | memory => exact Memory.discreet
  | table => exact Relational.discreet
  | remote h => exact Remote.discreet h

/-! ### Every stage -/

section Stages

variable [Source σ ι]

theorem failsOnly_applyToken (hsource : Source.Discreet σ) {config : Config σ ι}
    (hplain : config.Plain) (name text : String) :
    Action.FailsOnly Stage.filtering.Tells (Query.applyToken config name text) := by
  unfold Query.applyToken
  split
  · exact Action.failsOnly_fail rfl
  · rename_i filter hfilter
    simp only
    split
    · exact Action.failsOnly_fail rfl
    · have hcustom : filter.custom = none :=
        hplain.filters filter (List.mem_of_find?_eq_some hfilter)
      rw [FilterType.apply_of_custom_none hcustom]
      exact (Action.failsOnly_record _).bind fun _ => hsource.addFilter _ _ _ _

theorem failsOnly_applySortKey (hsource : Source.Discreet σ) {config : Config σ ι}
    (hplain : config.Plain) (key : String × Direction) :
    Action.FailsOnly Stage.sorting.Tells (Query.applySortKey config key) := by
  unfold Query.applySortKey
  split
  · exact Action.failsOnly_fail rfl
  · rename_i sort hsort
    have hcustom : sort.custom = none := hplain.sorts sort (List.mem_of_find?_eq_some hsort)
    rw [SortType.apply_of_custom_none hcustom]
    exact (Action.failsOnly_record _).bind fun _ => hsource.addSort _ _

variable [Representable ι]

theorem failsOnly_renderItem (renderer : Option (ι → Json)) (detail : Detail) (item : ι) :
    Except.FailsOnly Stage.showing.Tells (renderItem renderer detail item) := by
  unfold renderItem
  cases renderer with
  | some render => exact Except.failsOnly_ok _
  | none =>
    cases ownForm? item detail with
    | some shown => exact Except.failsOnly_ok _
    | none =>
      cases Representable.serialise item with
      | ok value => exact Except.failsOnly_ok _
      | error refusal => exact Except.failsOnly_error rfl

namespace Assembly

variable {assembly : Assembly σ ι} {error : Error} {stage : Stage}

/-- A failure of the server is told by the stage that it comes from. -/
theorem FailsAt.tells (hsource : Source.Discreet σ) (hplain : assembly.config.Plain)
    (h : assembly.FailsAt error stage) (hserver : error.status ≠ .unprocessable) :
    stage.Tells error := by
  cases h with
  | validating fresh failed =>
    unfold Query.ofRequest at failed
    split at failed
    · cases failed
      rfl
    · cases failed
    · cases failed
      exact absurd rfl hserver
  | resuming poisoned failed =>
    rw [failed]
    rfl
  | filtering awaits stops => exact failsOnly_applyToken hsource hplain _ _ _ _ stops.failed
  | sorting awaits filtered stops => exact failsOnly_applySortKey hsource hplain _ _ _ stops.failed
  | fetching applied failed => exact hsource.fetch _ _ _ _ failed
  | showing applied fetched split shown failed => exact failsOnly_renderItem _ _ _ _ failed

theorem result_respond_of_error (h : (assemble assembly).result = .error error) :
    (respond assembly).result = .ok error.response := by
  simp only [respond, h]

/-- The response to a failure of the server is the sentence of its stage, whatever the error
    carries. -/
theorem FailsAt.result_respond (hsource : Source.Discreet σ) (hplain : assembly.config.Plain)
    (h : assembly.FailsAt error stage) (hserver : error.status ≠ .unprocessable) :
    ∃ sentence, stage.sentence? error.kind = some sentence ∧
      (respond assembly).result = .ok (error.kind.answer sentence) := by
  have htells : stage.Tells error := h.tells hsource hplain hserver
  refine ⟨error.userMessage, htells, ?_⟩
  rw [result_respond_of_error (assemble_eq_error_iff.2 ⟨stage, h⟩), htells.response_eq]

end Assembly

end Stages

namespace Assembly

/-- **A client learns where the server failed, and nothing more.**  Over the sources of the
    library, in a listing without filters and sorts of its own: whenever making the document
    fails with status 500 or 502, it fails at one of the stages.  The response has the status of
    the error's kind, and its body is the sentence that the stage has for that kind, without
    details.  So it is the response to any other failure of that kind at that stage, in any
    other listing, over any other source and for any other request. -/
theorem failures_disclose_nothing {τ κ : Type} [source : Source σ ι] [other : Source τ κ]
    [Representable ι] [Representable κ] (hsource : source.Provided) (hother : other.Provided)
    {first : Assembly σ ι} {second : Assembly τ κ} (hfirst : first.config.Plain)
    (hsecond : second.config.Plain) {error : Error}
    (hfails : (assemble first).result = .error error)
    (hserver : error.status.code = 500 ∨ error.status.code = 502) :
    (∃ stage, first.FailsAt error stage) ∧
    ∀ stage, first.FailsAt error stage →
      (∃ sentence response, stage.sentence? error.kind = some sentence ∧
        (respond first).result = .ok response ∧
        response = error.kind.answer sentence ∧
        response.bodyText = "\x7b\"error\":\"" ++ sentence ++ "\"\x7d" ∧
        response.body.field? "details" = none) ∧
      ∀ error', second.FailsAt error' stage → error'.kind = error.kind →
        (respond second).result = (respond first).result := by
  have hserver : error.status ≠ .unprocessable := by
    intro h
    rw [h] at hserver
    simp [Status.code] at hserver
  refine ⟨assemble_eq_error_iff.1 hfails, fun stage hstage => ?_⟩
  obtain ⟨sentence, hsentence, hresponse⟩ := hstage.result_respond hsource.discreet hfirst hserver
  refine ⟨⟨sentence, error.kind.answer sentence, hsentence, hresponse, rfl,
    Stage.bodyText_answer hsentence, rfl⟩, ?_⟩
  intro error' hstage' hkind
  have hserver' : error'.status ≠ .unprocessable := by
    rw [error'.status_eq, hkind, ← error.status_eq]
    exact hserver
  obtain ⟨sentence', hsentence', hresponse'⟩ :=
    hstage'.result_respond hother.discreet hsecond hserver'
  rw [hkind, hsentence] at hsentence'
  cases hsentence'
  rw [hresponse, hresponse', hkind]

/-- A row of a table and an item of a service refuse to be shown, each for a reason of its own,
    and the clients are told the same. -/
theorem refusals_look_alike :
    let torn : Row := ⟨.object [("size", .ofNat 3)], some "torn label", none, none⟩
    let whole : Row := ⟨.object [("size", .ofNat 4)], none, none, none⟩
    let lost : Row := ⟨.null, some "lost in transit", none, none⟩
    let first : Assembly (Relational Row) Row :=
      start (parcels _ _) ⟨"/parcels", [("page_size", "1")]⟩
        (.ofTable ⟨"parcels", ["size"], none⟩ ⟨[.count 1, .rows [torn]], []⟩)
    let second : Assembly (Remote (RecordingClient Row)) Row :=
      start (parcels _ _) ⟨"/depot", [("limit", "5")]⟩ ⟨⟨[whole, lost], 2, 0, none, [], [], []⟩⟩
    (assemble first).result = .error (.internal .renderItem (some (.stated "torn label"))) ∧
      (assemble second).result
        = .error (.internal .renderItem (some (.stated "lost in transit"))) ∧
      (respond second).result = (respond first).result := by
  intro torn whole lost first second
  have hfirst : first.FailsAt (.internal .renderItem (some (.stated "torn label"))) .showing := by
    have happlied : first.Applied (Query.read first.config first.request) _ :=
      .now (awaits_start (by decide +kernel) _) (by decide +kernel)
    have hfetched : (Source.fetch (Query.read first.config first.request).window.limit
        (Query.read first.config first.request).window.offset
        ((Query.read first.config first.request).apply first.config first.source).state).result
          = .ok ⟨[torn], 1⟩ :=
      Relational.result_fetch_of_replies rfl
    exact .showing happlied hfetched (List.nil_append [torn]).symm ⟨[], rfl⟩ rfl
  have hsecond : second.FailsAt (.internal .renderItem (some (.stated "lost in transit")))
      .showing := by
    have happlied : second.Applied (Query.read second.config second.request) _ :=
      .now (awaits_start (by decide +kernel) _) (by decide +kernel)
    have hfetched : (Source.fetch (Query.read second.config second.request).window.limit
        (Query.read second.config second.request).window.offset
        ((Query.read second.config second.request).apply second.config
          second.source).state).result = .ok ⟨[whole, lost], 2⟩ := rfl
    exact .showing happlied hfetched (List.singleton_append).symm ⟨[whole.value], rfl⟩ rfl
  have hfails := assemble_eq_error_iff.2 ⟨_, hfirst⟩
  have hplain : second.config.Plain := plain_parcels
  have hdisclosed := failures_disclose_nothing .table (.remote RecordingClient.failsAsBackend)
    plain_parcels hplain hfails (.inl rfl)
  exact ⟨hfails, assemble_eq_error_iff.2 ⟨_, hsecond⟩,
    (hdisclosed.2 _ hfirst).2 _ hsecond rfl⟩

end Assembly

end Listing
