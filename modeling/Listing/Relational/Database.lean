/-
  Listing/Relational/Database.lean
  ================================
  **A database that answers from a script.**

  It holds the answers that it is going to give, in order, and the statements
  that it was sent.
-/
import Listing.Error
import Listing.Sql.Select

namespace Listing

inductive Reply (ι : Type) where
  | count (n : Nat)
  | rows (items : List ι)
  | failure (fault : DatabaseFault)

/-- A database: the answers to come, and the statements received so far. -/
structure Database (ι : Type) where
  replies : List (Reply ι)
  executed : List Sql.Statement

namespace Database

variable {ι : Type}

/-- Send a statement; the next answer is given to it. -/
def send (statement : Sql.Statement) (database : Database ι) : Database ι × Reply ι :=
  match database.replies with
  | reply :: rest => (⟨rest, database.executed ++ [statement]⟩, reply)
  | [] => (⟨[], database.executed ++ [statement]⟩, .failure .noAnswer)

/-- The number in an answer.  Without a row none were counted; rows of a table
    have no value in the column of the count. -/
def countOf : Reply ι → Except Error Nat
  | .count n => .ok n
  | .rows [] => .ok 0
  | .rows (_ :: _) => .error (.database (.missingValue Sql.countColumn))
  | .failure fault => .error (.database fault)

/-- The rows in an answer, with the columns that were asked for.  The row of a
    count has a value in none of them, which is noticed at the first. -/
def rowsOf (columns : List String) : Reply ι → Except Error (List ι)
  | .rows items => .ok items
  | .count _ =>
    match columns with
    | [] => .ok []
    | column :: _ => .error (.database (.missingValue column))
  | .failure fault => .error (.database fault)

end Database

end Listing
