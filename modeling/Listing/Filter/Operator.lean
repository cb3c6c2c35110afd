/-
  Listing/Filter/Operator.lean
  ============================
  **Filter operators.**

  Eighteen operators, each with a name in the query string and an arity, the
  number of parameters that it takes.
-/

namespace Listing

/-! ### Arity -/

/-- How many parameters an operator takes. -/
inductive Arity where
  | zero
  | one
  | two
  /-- One or more. -/
  | unlimited
deriving DecidableEq, Repr

namespace Arity

def accepts : Arity → Nat → Bool
  | .zero, n => n == 0
  | .one, n => n == 1
  | .two, n => n == 2
  | .unlimited, n => 1 ≤ n

/-- The arity in words, as error messages say it. -/
def describe : Arity → String
  | .zero => "no parameters"
  | .one => "exactly one parameter"
  | .two => "exactly two parameters"
  | .unlimited => "at least one parameter"

end Arity

/-! ### Operators -/

inductive Operator where
  | empty
  | notEmpty
  | eq
  | ne
  | lt
  | gt
  | lte
  | gte
  | startsWith
  | endsWith
  | contains
  | notStartsWith
  | notEndsWith
  | notContains
  | between
  | notBetween
  | isIn
  | notIn
deriving DecidableEq, Repr

namespace Operator

/-- Every operator, in the order of the documentation. -/
def all : List Operator :=
  [.empty, .notEmpty, .eq, .ne, .lt, .gt, .lte, .gte, .startsWith, .endsWith, .contains,
    .notStartsWith, .notEndsWith, .notContains, .between, .notBetween, .isIn, .notIn]

def name : Operator → String
  | .empty => "empty"
  | .notEmpty => "not-empty"
  | .eq => "eq"
  | .ne => "ne"
  | .lt => "lt"
  | .gt => "gt"
  | .lte => "lte"
  | .gte => "gte"
  | .startsWith => "starts-with"
  | .endsWith => "ends-with"
  | .contains => "contains"
  | .notStartsWith => "not-starts-with"
  | .notEndsWith => "not-ends-with"
  | .notContains => "not-contains"
  | .between => "between"
  | .notBetween => "not-between"
  | .isIn => "in"
  | .notIn => "not-in"

def arity : Operator → Arity
  | .empty | .notEmpty => .zero
  | .between | .notBetween => .two
  | .isIn | .notIn => .unlimited
  | _ => .one

/-- The operator with the given name; names are compared exactly. -/
def ofName? (name : String) : Option Operator := all.find? fun op => op.name == name

theorem mem_all (op : Operator) : op ∈ all := by cases op <;> decide

theorem ofName?_name (op : Operator) : ofName? op.name = some op := by cases op <;> decide

theorem name_of_ofName? {s : String} {op : Operator} (h : ofName? s = some op) : op.name = s := by
  have := List.find?_some h
  exact eq_of_beq this

end Operator

def unknownOperatorText (name : String) : String := s!"unknown filter operator '{name}'"

end Listing
