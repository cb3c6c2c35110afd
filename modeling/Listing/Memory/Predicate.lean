/-
  Listing/Memory/Predicate.lean
  =============================
  **Filters as predicates on the value of a field.**

  A filter holds of a value that may be absent.  Comparisons and matches hold of
  present values only; their negations hold of absent ones too, but *not in*
  needs a value.  Matching ignores case.
-/
import Listing.Filter.Param
import Listing.Memory.Compare

namespace Listing.Memory

/-- A predicate on the value of a field, which may be absent. -/
abbrev Predicate : Type := Option Json → Bool

/-- Whether the searched text of a value passes a test; false without such text. -/
def matching (test : List Char → Bool) : Predicate := fun value =>
  (value.bind searchText?).any test

def comparing (test : Ordering → Bool) (param : String) : Predicate := fun value =>
  value.any fun v => test (compareParam v param)

def matchingFirst (op : Operator) (params : List String)
    (test : (needle text : List Char) → Bool) : Except Error Predicate :=
  (paramAt op params 0).map fun param => matching (test (Text.lowercase param.toList))

def comparingFirst (op : Operator) (params : List String) (test : Ordering → Bool) :
    Except Error Predicate :=
  (paramAt op params 0).map (comparing test)

/-- Whether a present value lies between two parameters, both included. -/
def within (low high : String) : Predicate := fun value =>
  value.any fun v => (compareParam v low).isGE && (compareParam v high).isLE

def amongst (params : List String) (value : Json) : Bool :=
  params.any fun param => (compareParam value param).isEq

def negate (p : Predicate) : Predicate := fun value => !p value

def predicate (op : Operator) (params : List String) : Except Error Predicate :=
  match op with
  | .empty => .ok isEmpty
  | .notEmpty => .ok (negate isEmpty)
  | .eq => comparingFirst op params Ordering.isEq
  | .ne => (comparingFirst op params Ordering.isEq).map negate
  | .lt => comparingFirst op params Ordering.isLT
  | .gt => comparingFirst op params Ordering.isGT
  | .lte => comparingFirst op params Ordering.isLE
  | .gte => comparingFirst op params Ordering.isGE
  | .startsWith => matchingFirst op params List.isPrefixOf
  | .endsWith => matchingFirst op params List.isSuffixOf
  | .contains => matchingFirst op params Text.occursIn
  | .notStartsWith => (matchingFirst op params List.isPrefixOf).map negate
  | .notEndsWith => (matchingFirst op params List.isSuffixOf).map negate
  | .notContains => (matchingFirst op params Text.occursIn).map negate
  | .between => do
    let low ← paramAt op params 0
    let high ← paramAt op params 1
    return within low high
  | .notBetween => do
    let low ← paramAt op params 0
    let high ← paramAt op params 1
    return negate (within low high)
  | .isIn => (someParams op params).map fun accepted value => value.any (amongst accepted)
  | .notIn => (someParams op params).map fun rejected value =>
    value.any fun v => !amongst rejected v

end Listing.Memory
