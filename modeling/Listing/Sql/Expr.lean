/-
  Listing/Sql/Expr.lean
  =====================
  **Conditions in SQL.**

  A condition names columns and holds values; its text shows a placeholder for
  each value, so no value becomes text of the statement.  Names of columns and
  tables stand between double quotes, a quote in a name written twice.
-/
import Listing.Choice
import Listing.Number.Binary64

namespace Listing.Sql

open Number (Binary64)

/-! ### Values and columns -/

/-- A value that is bound to a placeholder. -/
inductive Value where
  | text (s : String)
  | integer (n : Int)
  | unsigned (n : Nat)
  | float (x : Binary64)
  | boolean (b : Bool)
deriving DecidableEq, Repr

def quoteName (name : String) : String :=
  String.ofList ('"' :: name.toList.flatMap (fun c => if c = '"' then ['"', '"'] else [c]) ++ ['"'])

/-- A column, of a named table or of the only one in sight. -/
structure Column where
  table : Option String
  name : String
deriving DecidableEq, Repr

def Column.sql (column : Column) : String :=
  match column.table with
  | some table => quoteName table ++ "." ++ quoteName column.name
  | none => quoteName column.name

/-! ### Conditions -/

inductive Comparison where
  | equal
  | notEqual
  | less
  | greater
  | lessOrEqual
  | greaterOrEqual
deriving DecidableEq, Repr

def Comparison.sign : Comparison → String
  | .equal => "="
  | .notEqual => "<>"
  | .less => "<"
  | .greater => ">"
  | .lessOrEqual => "<="
  | .greaterOrEqual => ">="

inductive Connective where
  | conjunction
  | disjunction
deriving DecidableEq, Repr

def Connective.word : Connective → String
  | .conjunction => " AND "
  | .disjunction => " OR "

/-- A condition.  The flag `negated` puts `NOT` in front of the test. -/
inductive Expr where
  | compare (column : Column) (comparison : Comparison) (value : Value)
  | isNull (column : Column) (negated : Bool)
  | isIn (column : Column) (negated : Bool) (values : List Value)
  /-- The pattern's wildcards `%` and `_` are literal after a backslash. -/
  | like (column : Column) (negated : Bool) (pattern : String)
  | between (column : Column) (negated : Bool) (low high : Value)
  | join (connective : Connective) (left right : Expr)
deriving DecidableEq, Repr

namespace Expr

def notText (negated : Bool) : String := if negated then "NOT " else ""

def parenthesised (text : String) : String := "(" ++ text ++ ")"

/-- Whether a condition needs parentheses as an operand of a connective.  A test
    between two bounds does, because it contains an `AND` of its own; a joined
    condition does, unless it is the left operand of the same connective. -/
def needsParentheses (outer : Connective) (isLeft : Bool) : Expr → Bool
  | .between .. => true
  | .join inner _ _ => !(isLeft && inner == outer)
  | _ => false

def sql : Expr → String
  | .compare column comparison _ => column.sql ++ " " ++ comparison.sign ++ " ?"
  | .isNull column negated => column.sql ++ " IS " ++ notText negated ++ "NULL"
  | .isIn column negated values =>
    column.sql ++ " " ++ notText negated ++ "IN "
      ++ parenthesised (", ".intercalate (values.map fun _ => "?"))
  | .like column negated _ => column.sql ++ " " ++ notText negated ++ "LIKE ? ESCAPE '\\'"
  | .between column negated _ _ => column.sql ++ " " ++ notText negated ++ "BETWEEN ? AND ?"
  | .join connective left right =>
    let operand (isLeft : Bool) (e : Expr) (text : String) : String :=
      if e.needsParentheses connective isLeft then parenthesised text else text
    operand true left left.sql ++ connective.word ++ operand false right right.sql

/-- The values of a condition, in the order of its placeholders. -/
def values : Expr → List Value
  | .compare _ _ value => [value]
  | .isNull _ _ => []
  | .isIn _ _ values => values
  | .like _ _ pattern => [.text pattern]
  | .between _ _ low high => [low, high]
  | .join _ left right => left.values ++ right.values

/-- All conditions joined by *and*; no condition when there are none. -/
def all? : List Expr → Option Expr
  | [] => none
  | first :: rest => some (rest.foldl (Expr.join .conjunction) first)

end Expr

end Listing.Sql
