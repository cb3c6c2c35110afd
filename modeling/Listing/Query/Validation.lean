/-
  Listing/Query/Validation.lean
  =============================
  **Everything that is wrong with a request.**

  A request is checked completely, so that a client learns every violation at
  once: first the shape of the single-valued parameters, then their values, then
  the filters under both their spellings, then the sort keys.  Only a mistake in
  the configuration stops the check early.
-/
import Listing.Filter.Token
import Listing.Query.Parameter

namespace Listing

namespace Config

variable {σ ι : Type} (config : Config σ ι)

/-! ### Rules of a listing -/

def filterTypeRule : Rule := fun _ name _ =>
  if (config.filterType? name).isSome then none else some (.unknownFilter name)

/-- The value is a token with a number of parameters that its operator takes. -/
def tokenArityRule : Rule := fun _ text _ =>
  let token := Token.ofText text
  if token.hasValidArity then none
  else some (.parameterCount text (token.operator?.map Operator.arity) token.params.length)

/-- The validator of a listing: the standard rules and two of its own. -/
def validator : Validator :=
  (Validator.standard.define "filter_type" (filterTypeRule config)).define
    "filter_param_count" tokenArityRule

/-! ### Filters -/

/-- What is wrong with one token of a filter, before its parameters are looked at. -/
def tokenComplaint? (filter : FilterType σ) (field text : String) : Option Complaint :=
  (Rule.required field text []).or <|
    let token := Token.ofText text
    match token.operator? with
    | none => some (.unknownOperator token.operator)
    | some op =>
      if filter.supports op then tokenArityRule field text []
      else some (.operatorNotAllowed op filter.name)

def tokenViolations (filter : FilterType σ) (field text : String) :
    Except UnknownRule (List Violation) :=
  match tokenComplaint? filter field text with
  | some complaint => .ok [⟨field, complaint⟩]
  | none =>
    ((Token.ofText text).params.mapM fun param =>
      config.validator.check field param filter.paramRules).map List.reduceOption

/-- The field that a token's violations are about: the filter, with the number of
    the token when there are several. -/
def tokenField (field : String) (count index : Nat) : String :=
  if count = 1 then field else s!"{field}.{index}"

def filterViolations (key : String) (entry : String × List String) :
    Except UnknownRule (List Violation) :=
  let (name, tokens) := entry
  let field := s!"{key}.{name}"
  match config.filterType? name with
  | none => .ok [⟨field, .unknownFilter name⟩]
  | some filter =>
    (tokens.zipIdx.mapM fun (numbered : String × Nat) =>
      config.tokenViolations filter (tokenField field tokens.length numbered.2) numbered.1).map
        List.flatten

def filterKeyViolations (request : Request) (key : String) :
    Except UnknownRule (List Violation) :=
  match request.map key with
  | .absent => .ok []
  | .malformed => .ok [⟨key, .notBracketed⟩]
  | .table entries => (entries.mapM (config.filterViolations key)).map List.flatten

/-! ### Sort keys -/

/-- The direction that a sort key asks for; it needs exactly one word. -/
def direction? : List String → Option Direction
  | [word] => Direction.ofName? word
  | _ => none

def sortViolations (entry : String × List String) : List Violation :=
  let (name, words) := entry
  let field := s!"sort.{name}"
  if (config.sortType? name).isNone then [⟨field, .unknownSort name⟩]
  else if (direction? words).isNone then [⟨field, .badDirection name⟩]
  else []

def sortKeyViolations (request : Request) : List Violation :=
  match request.map "sort" with
  | .absent => []
  | .malformed => [⟨"sort", .notBracketed⟩]
  | .table entries => entries.flatMap config.sortViolations

/-! ### The whole request -/

def violations (request : Request) : Except UnknownRule (List Violation) := do
  let shapes := Parameter.all.flatMap (Parameter.shapeViolations request)
  let values ← Parameter.all.mapM
    (Parameter.valueViolations config.validator config.pageSizes request)
  let filters ← config.filterKeyViolations request "filters"
  let older ← config.filterKeyViolations request "filter"
  return shapes ++ values.flatten ++ filters ++ older ++ config.sortKeyViolations request

end Config

end Listing
