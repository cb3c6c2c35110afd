/-
  Listing/Relational/Source.lean
  ==============================
  **A source over a query of a database.**

  Filters become conditions and sort keys an order, on top of whatever query the
  source begins with.  A page takes two statements: the count of all matches first
  and, unless that fails, the rows of the page.
-/
import Listing.Relational.Condition
import Listing.Relational.Database
import Listing.Source

namespace Listing

/-- The plainest query to begin with: a table with its columns, and a condition of its
    rows, if any. -/
structure Table where
  name : String
  columns : List String
  base : Option Sql.Expr
deriving DecidableEq, Repr

/-- All columns of a table, of the rows that satisfy its condition. -/
def Table.clauses (table : Table) : Sql.Clauses :=
  Sql.Select.clauses
    { columns := table.columns.map fun name => ⟨some table.name, name⟩
      table := table.name
      condition := table.base
      order := []
      page := none }

/-- A source over a query: the query that it begins with, the conditions and the order so
    far, and the database. -/
structure Relational (ι : Type) where
  /-- The table that the rows are of. -/
  table : String
  /-- The columns that a row is made of. -/
  columns : List String
  base : Sql.Clauses
  conditions : List Sql.Expr
  order : List (Sql.Column × Direction)
  database : Database ι

namespace Relational

variable {ι : Type}

/-- A source that begins with any query. -/
def ofQuery (table : String) (columns : List String) (base : Sql.Clauses)
    (database : Database ι) : Relational ι :=
  ⟨table, columns, base, [], [], database⟩

def ofTable (table : Table) (database : Database ι) : Relational ι :=
  ofQuery table.name table.columns table.clauses database

/-- A sort key names its column without the table. -/
def orderKey (key : String × Direction) : Sql.Column × Direction := (⟨none, key.1⟩, key.2)

/-- The query with every filter and sort key so far, without a page. -/
def select (source : Relational ι) : Sql.Clauses :=
  (source.base.filtered source.conditions).ordered source.order

def pageSelect (source : Relational ι) (limit offset : Nat) : Sql.Clauses :=
  source.select.paged limit offset

def send (statement : Sql.Statement) : Action (Relational ι) (Reply ι) := fun source =>
  let (database, reply) := source.database.send statement
  ⟨{ source with database := database }, [], .ok reply⟩

def addFilter (field : String) (kind : ValueKind) (op : Operator) (params : List String) :
    Action (Relational ι) Unit := fun source =>
  match condition field kind op params with
  | .ok condition => ⟨{ source with conditions := source.conditions ++ [condition] }, [], .ok ()⟩
  | .error error => ⟨source, [], .error error⟩

def addSort (field : String) (direction : Direction) : Action (Relational ι) Unit := fun source =>
  ⟨{ source with order := source.order ++ [orderKey (field, direction)] }, [], .ok ()⟩

def fetch (limit offset : Nat) : Action (Relational ι) (Page ι) := fun source =>
  let steps : Action (Relational ι) (Page ι) := do
    let counted ← send source.select.count
    let total ← Action.ofExcept (Database.countOf counted)
    let answered ← send (source.pageSelect limit offset).statement
    let items ← Action.ofExcept (Database.rowsOf source.columns answered)
    Action.record (.fetched (.table source.table) total offset limit items.length)
    return { items := items, total := total }
  steps source

instance : Source (Relational ι) ι where
  backend := "relational"
  addFilter := addFilter
  addSort := addSort
  fetch := fetch

end Relational

end Listing
