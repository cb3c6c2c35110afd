/-
  Listing/Assembly.lean
  =====================
  **Making the document of a request, phase by phase.**

  A request is validated, its query is applied to the source, and one page is
  fetched and shown.  Each phase runs at most once.  A request that is not valid
  leaves everything as it was.  A query that fails halfway leaves the source in
  an unknown state, so nothing can be made of it any more.  A fetch that fails
  can be repeated.
-/
import Listing.Query.Basic

namespace Listing

/-- How far a request has got. -/
inductive Phase where
  | pending
  | validated (query : Query)
  | applied (query : Query)
  | assembled (document : Document)
  /-- The query failed halfway. -/
  | poisoned

/-- A request on its way to a document. -/
structure Assembly (σ ι : Type) where
  config : Config σ ι
  request : Request
  source : σ
  phase : Phase

namespace Assembly

variable {σ ι : Type}

def start (config : Config σ ι) (request : Request) (source : σ) : Assembly σ ι :=
  ⟨config, request, source, .pending⟩

def isAssembled (assembly : Assembly σ ι) : Bool :=
  match assembly.phase with
  | .assembled _ => true
  | _ => false

def poisonedError : Error := .internal .assemble (some .earlierFailure)

def validatedEvent (query : Query) : Event :=
  .validated query.window.limit query.window.offset query.filters.length query.sort.length

def rejectionEvents : Error → List Event
  | .validation violations => [.rejected violations]
  | _ => []

/-- Validate the request if that is still to be done. -/
def validate : Action (Assembly σ ι) Unit := fun assembly =>
  match assembly.phase with
  | .pending =>
    match Query.ofRequest assembly.config assembly.request with
    | .ok query => ⟨{ assembly with phase := .validated query }, [validatedEvent query], .ok ()⟩
    | .error error => ⟨assembly, rejectionEvents error, .error error⟩
  | .poisoned => ⟨assembly, [], .error poisonedError⟩
  | .validated _ | .applied _ | .assembled _ => ⟨assembly, [], .ok ()⟩

/-- Apply the query of a validated request. -/
def applyQuery [Source σ ι] : Action (Assembly σ ι) Unit := fun assembly =>
  match assembly.phase with
  | .validated query =>
    let done := query.apply assembly.config assembly.source
    match done.result with
    | .ok _ =>
      ⟨{ assembly with source := done.state, phase := .applied query }, done.events, .ok ()⟩
    | .error error =>
      ⟨{ assembly with source := done.state, phase := .poisoned }, done.events, .error error⟩
  | _ => ⟨assembly, [], .ok ()⟩

def apply [Source σ ι] : Action (Assembly σ ι) Unit := do
  validate
  applyQuery

/-- The document of a page whose items are shown already. -/
def document (request : Request) (query : Query) (total : Nat) (items : List Json) : Document where
  applied := query.applied
  items := items
  total := total
  offset := query.window.offset
  limit := query.window.limit
  totalPages := pageCount total query.window.limit
  links := (Links.ofPage total query.window.limit query.window.offset).map request.urlAt

def assembledEvent (backend : String) (document : Document) : Event :=
  .assembled backend document.total document.items.length

/-- Fetch and show the page of an applied query. -/
def fetchDocument [Source σ ι] [Representable ι] : Action (Assembly σ ι) Document :=
  fun assembly =>
    match assembly.phase with
    | .assembled document => ⟨assembly, [], .ok document⟩
    | .applied query =>
      let done := (Source.fetch query.window.limit query.window.offset : Action σ (Page ι))
        assembly.source
      let left := { assembly with source := done.state }
      let shown := done.result.bind fun page =>
        (page.items.mapM (renderItem assembly.config.renderer query.detail)).map
          (document assembly.request query page.total)
      match shown with
      | .ok document =>
        ⟨{ left with phase := .assembled document },
          done.events ++ [assembledEvent (Source.backend σ) document], .ok document⟩
      | .error error => ⟨left, done.events, .error error⟩
    | .pending | .validated _ | .poisoned => ⟨assembly, [], .error poisonedError⟩

/-- Run every phase that is still to be run, and give the document. -/
def assemble [Source σ ι] [Representable ι] : Action (Assembly σ ι) Document := do
  apply
  fetchDocument

def respond [Source σ ι] [Representable ι] : Action (Assembly σ ι) Response := fun assembly =>
  let done := assemble assembly
  match done.result with
  | .ok document => ⟨done.state, done.events, .ok document.response⟩
  | .error error => ⟨done.state, done.events ++ [.answered error], .ok error.response⟩

end Assembly

end Listing
