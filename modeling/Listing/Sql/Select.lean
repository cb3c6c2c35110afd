/-
  Listing/Sql/Select.lean
  =======================
  **Statements that read.**

  A statement is text with placeholders, and the values bound to them in order.  A
  select is kept clause by clause, because it grows: further conditions are joined to
  the one that it has, further sort keys go behind its own, and a page takes the place
  of its own limit and offset.  What it reads, how it groups and what it locks is not
  looked into, so the select that all begins with may be any.
-/
import Listing.Sql.Expr
import Listing.Text.Numeral

namespace Listing.Sql

/-! ### Statements and their parts -/

/-- A statement, or a part of one. -/
structure Statement where
  sql : String
  values : List Value
deriving DecidableEq, Repr

namespace Statement

instance : Append Statement :=
  ⟨fun first second => ⟨first.sql ++ second.sql, first.values ++ second.values⟩⟩

@[simp] theorem sql_append (first second : Statement) :
    (first ++ second).sql = first.sql ++ second.sql := rfl

@[simp] theorem values_append (first second : Statement) :
    (first ++ second).values = first.values ++ second.values := rfl

def empty : Statement := ⟨"", []⟩

/-- Text without placeholders. -/
def ofText (sql : String) : Statement := ⟨sql, []⟩

/-- The statement as an operand, in parentheses if it needs them. -/
def operand (grouped : Bool) (statement : Statement) : Statement :=
  if grouped then ⟨Expr.parenthesised statement.sql, statement.values⟩ else statement

end Statement

def Expr.statement (e : Expr) : Statement := ⟨e.sql, e.values⟩

/-! ### The condition of a select -/

/-- The condition of a select.  It may be of any form. -/
structure Where where
  statement : Statement
  /-- It needs parentheses in front of an `AND`. -/
  grouped : Bool
  /-- It is a list of conditions, and others join the list.  Beside any other condition, such as
      an alternative, the others are joined among themselves first. -/
  joins : Bool
deriving DecidableEq, Repr

namespace Where

def ofExpr (e : Expr) : Where := ⟨e.statement, e.needsParentheses .conjunction true, true⟩

def and (condition : Where) (e : Expr) : Where where
  statement := condition.statement.operand condition.grouped
    ++ .ofText Connective.conjunction.word
    ++ e.statement.operand (e.needsParentheses .conjunction false)
  grouped := false
  joins := true

def andAll (condition : Where) (conditions : List Expr) : Where :=
  if condition.joins then conditions.foldl and condition
  else
    match Expr.all? conditions with
    | some e => condition.and e
    | none => condition

end Where

/-! ### Selects -/

/-- The clauses of a select, in the order of its text. -/
structure Clauses where
  /-- What is read, and from where. -/
  head : Statement
  condition : Option Where
  /-- How the rows are grouped, and the selects that this one is united with. -/
  grouping : Statement
  order : List Statement
  limit : Option Nat
  offset : Option Nat
  /-- What follows the page, such as a lock. -/
  tail : Statement
deriving DecidableEq, Repr

def directionWord : Direction → String
  | .asc => "ASC"
  | .desc => "DESC"

def orderKeyText (key : Column × Direction) : String := key.1.sql ++ " " ++ directionWord key.2

/-- The column that holds the number in the answer to a count. -/
def countColumn : String := "num_items"

namespace Clauses

def whereClause (clauses : Clauses) : Statement :=
  match clauses.condition with
  | some condition => .ofText " WHERE " ++ condition.statement
  | none => .empty

def orderClause (clauses : Clauses) : Statement :=
  if clauses.order.isEmpty then .empty
  else ⟨" ORDER BY " ++ ", ".intercalate (clauses.order.map Statement.sql),
    clauses.order.flatMap Statement.values⟩

/-- A clause with a number, if there is one. -/
def numberClause (text : String) : Option Nat → Statement
  | some n => ⟨text, [.unsigned n]⟩
  | none => .empty

def pageClause (clauses : Clauses) : Statement :=
  numberClause " LIMIT ?" clauses.limit ++ numberClause " OFFSET ?" clauses.offset

def statement (clauses : Clauses) : Statement :=
  clauses.head ++ clauses.whereClause ++ clauses.grouping ++ clauses.orderClause
    ++ clauses.pageClause ++ clauses.tail

/-- The select with further conditions, joined by *and* behind its own one. -/
def filtered (clauses : Clauses) (conditions : List Expr) : Clauses :=
  { clauses with
    condition :=
      match clauses.condition with
      | some condition => some (condition.andAll conditions)
      | none => (Expr.all? conditions).map Where.ofExpr }

/-- The select with further keys behind its order. -/
def ordered (clauses : Clauses) (keys : List (Column × Direction)) : Clauses :=
  { clauses with order := clauses.order ++ keys.map fun key => .ofText (orderKeyText key) }

/-- The select cut to a page, which takes the place of its own one. -/
def paged (clauses : Clauses) (limit offset : Nat) : Clauses :=
  { clauses with limit := some limit, offset := some offset }

/-- The statement that counts what a select would read without order and page. -/
def count (clauses : Clauses) : Statement :=
  .ofText ("SELECT COUNT(*) AS " ++ countColumn ++ " FROM (")
    ++ statement { clauses with order := [], limit := none, offset := none }
    ++ .ofText (") AS " ++ quoteName "sub_query")

end Clauses

/-! ### Selects from one table -/

structure Select where
  /-- The columns read; none means all of them. -/
  columns : List Column
  table : String
  condition : Option Expr
  order : List (Column × Direction)
  page : Option (Nat × Nat)
deriving DecidableEq, Repr

namespace Select

def columnsText (select : Select) : String :=
  if select.columns.isEmpty then "*" else ", ".intercalate (select.columns.map Column.sql)

def clauses (select : Select) : Clauses where
  head := .ofText ("SELECT " ++ select.columnsText ++ " FROM " ++ quoteName select.table)
  condition := select.condition.map Where.ofExpr
  grouping := .empty
  order := select.order.map fun key => .ofText (orderKeyText key)
  limit := select.page.map Prod.fst
  offset := select.page.map Prod.snd
  tail := .empty

def statement (select : Select) : Statement := select.clauses.statement

end Select

end Listing.Sql
