/-
  Listing/Relational/Condition.lean
  =================================
  **Filters as conditions in SQL.**

  Parameters become values of the filter's kind.  Comparisons and matches hold of
  present values only, and SQL's own logic takes care of that; negations say
  explicitly that a missing value passes too, except *not in*.  The parameter of
  a match is literal text: its wildcards are escaped.
-/
import Listing.Filter.Param
import Listing.Number.Reader
import Listing.Sql.Expr
import Listing.Text.Blank
import Listing.Text.Numeral
import Listing.Text.Truth

namespace Listing.Relational

open Number (Binary64)
open Sql (Column Comparison Expr Value)

/-! ### Values -/

/-- A parameter as a value of a kind.  Texts are taken as they are; everything else
    is trimmed. -/
def value? (kind : ValueKind) (raw : String) : Option Value :=
  let trimmed := Text.trim raw.toList
  match kind with
  | .text => some (.text raw)
  | .integer => (Text.signed? trimmed).map .integer
  | .float => (Binary64.ofText? trimmed).map .float
  | .boolean => (Text.truthValue? (String.ofList trimmed)).map .boolean

def coerce (kind : ValueKind) (raw : String) : Except Error Value :=
  match value? kind raw with
  | some value => .ok value
  | none => .error (.internal .applyFilter (some (.invalidValue raw kind)))

/-- The values of a kind that count as empty, besides a missing one. -/
def emptyValues : ValueKind → List Value
  | .text => [.text "", .text "0"]
  | .integer => [.integer 0]
  | .float => [.float ⟨false, 0⟩]
  | .boolean => [.boolean false]

/-! ### Patterns -/

/-- Escape the wildcards of a pattern, so that the text stands for itself. -/
def escapePattern (cs : List Char) : List Char :=
  cs.flatMap fun c => if c = '%' ∨ c = '_' ∨ c = '\\' then ['\\', c] else [c]

/-- Which end of a value a pattern is tied to. -/
inductive Anchor where
  | start
  | finish
  | anywhere
deriving DecidableEq, Repr

def pattern (anchor : Anchor) (text : String) : String :=
  let literal := escapePattern text.toList
  String.ofList <|
    match anchor with
    | .start => literal ++ ['%']
    | .finish => '%' :: literal
    | .anywhere => '%' :: literal ++ ['%']

/-! ### Conditions -/

def orNull (column : Column) (condition : Expr) : Expr :=
  .join .disjunction condition (.isNull column false)

def comparing (column : Column) (kind : ValueKind) (op : Operator) (params : List String)
    (comparison : Comparison) : Except Error Expr := do
  let value ← coerce kind (← paramAt op params 0)
  return .compare column comparison value

def matching (column : Column) (op : Operator) (params : List String) (negated : Bool)
    (anchor : Anchor) : Except Error Expr :=
  (paramAt op params 0).map fun param => .like column negated (pattern anchor param)

def bounds (column : Column) (kind : ValueKind) (op : Operator) (params : List String)
    (negated : Bool) : Except Error Expr := do
  let low ← coerce kind (← paramAt op params 0)
  let high ← coerce kind (← paramAt op params 1)
  return .between column negated low high

def listed (column : Column) (kind : ValueKind) (op : Operator) (params : List String)
    (negated : Bool) : Except Error Expr := do
  let params ← someParams op params
  return .isIn column negated (← params.mapM (coerce kind))

def condition (field : String) (kind : ValueKind) (op : Operator) (params : List String) :
    Except Error Expr :=
  let column : Column := ⟨none, field⟩
  match op with
  | .empty =>
    .ok (.join .disjunction (.isNull column false) (.isIn column false (emptyValues kind)))
  | .notEmpty =>
    .ok (.join .conjunction (.isNull column true) (.isIn column true (emptyValues kind)))
  | .eq => comparing column kind op params .equal
  | .ne => (comparing column kind op params .notEqual).map (orNull column)
  | .lt => comparing column kind op params .less
  | .gt => comparing column kind op params .greater
  | .lte => comparing column kind op params .lessOrEqual
  | .gte => comparing column kind op params .greaterOrEqual
  | .startsWith => matching column op params false .start
  | .endsWith => matching column op params false .finish
  | .contains => matching column op params false .anywhere
  | .notStartsWith => (matching column op params true .start).map (orNull column)
  | .notEndsWith => (matching column op params true .finish).map (orNull column)
  | .notContains => (matching column op params true .anywhere).map (orNull column)
  | .between => bounds column kind op params false
  | .notBetween => (bounds column kind op params true).map (orNull column)
  | .isIn => listed column kind op params false
  | .notIn => listed column kind op params true

end Listing.Relational
