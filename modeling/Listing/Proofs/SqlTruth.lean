/-
  Listing/Proofs/SqlTruth.lean
  ============================
  **What a condition in SQL says of a row.**

  A cell may be missing, and a test of a missing cell is neither true nor false.
  The connectives carry the third value along: a conjunction fails as soon as one
  side fails, a disjunction holds as soon as one side holds, and the negation of
  *unknown* is *unknown*.  A row is selected when the condition holds of it; that
  it does not fail is not enough.

  A test that compares is a test of a value that may be missing, and the
  connectives keep it one (`negateIf_map`, `and_map`, `any_map`); so the third value
  is a matter of missing cells alone.
-/
import Listing.Sql.Expr
import Mathlib.Data.List.Forall2
import Mathlib.Data.List.Infix

namespace Listing.Sql

open Number (Binary64)

/-! ### Three truth values -/

inductive Truth where
  | holds
  | fails
  | unknown
deriving DecidableEq, Repr

namespace Truth

/-- The truth of a test that may be without a result. -/
def ofOption : Option Bool → Truth
  | some true => .holds
  | some false => .fails
  | none => .unknown

def not : Truth → Truth
  | .holds => .fails
  | .fails => .holds
  | .unknown => .unknown

def and : Truth → Truth → Truth
  | .fails, _ | _, .fails => .fails
  | .holds, .holds => .holds
  | _, _ => .unknown

def or : Truth → Truth → Truth
  | .holds, _ | _, .holds => .holds
  | .fails, .fails => .fails
  | _, _ => .unknown

/-- The negation of a truth value under the flag that a condition carries. -/
def negateIf (negated : Bool) (truth : Truth) : Truth := if negated then truth.not else truth

/-- Whether one of several tests holds. -/
def any (truths : List Truth) : Truth := truths.foldr or .fails

theorem ofOption_eq_holds_iff {result : Option Bool} :
    ofOption result = .holds ↔ result = some true := by
  rcases result with _ | _ | _ <;> decide

theorem and_eq_holds_iff {x y : Truth} : x.and y = .holds ↔ x = .holds ∧ y = .holds := by
  cases x <;> cases y <;> decide

theorem or_eq_holds_iff {x y : Truth} : x.or y = .holds ↔ x = .holds ∨ y = .holds := by
  cases x <;> cases y <;> decide

theorem or_ofOption_some (b c : Bool) :
    (ofOption (some b)).or (ofOption (some c)) = ofOption (some (b || c)) := by
  cases b <;> cases c <;> rfl

/-! Tests of a value that may be missing: each connective tests the value once. -/

section Tests

variable {α β : Type}

theorem ofOption_map_eq_holds_iff {value : Option α} {test : α → Bool} :
    ofOption (value.map test) = .holds ↔ value.any test = true := by
  rw [ofOption_eq_holds_iff]
  cases value with
  | none => simp
  | some x => simp

theorem negateIf_map (negated : Bool) (value : Option α) (test : α → Bool) :
    negateIf negated (ofOption (value.map test))
      = ofOption (value.map fun x => negated ^^ test x) := by
  cases value with
  | none => cases negated <;> rfl
  | some x => cases negated <;> cases h : test x <;> simp [negateIf, ofOption, not, h]

theorem and_map (value : Option α) (first second : α → Bool) :
    (ofOption (value.map first)).and (ofOption (value.map second))
      = ofOption (value.map fun x => first x && second x) := by
  cases value with
  | none => rfl
  | some x => cases hf : first x <;> cases hs : second x <;> simp [ofOption, and, hf, hs]

/-- One of several tests, at least one: over a missing value they are unknown together. -/
theorem any_map {bounds : List β} (h : bounds ≠ []) (value : Option α) (test : β → α → Bool) :
    any (bounds.map fun bound => ofOption (value.map (test bound)))
      = ofOption (value.map fun x => bounds.any fun bound => test bound x) := by
  cases value with
  | none =>
    induction bounds with
    | nil => exact absurd rfl h
    | cons bound rest ih =>
      cases rest with
      | nil => rfl
      | cons next more => exact congrArg (or .unknown) (ih (List.cons_ne_nil next more))
  | some x =>
    clear h
    induction bounds with
    | nil => rfl
    | cons bound rest ih =>
      have hcons : any ((bound :: rest).map fun bound => ofOption ((some x).map (test bound)))
          = (ofOption (some (test bound x))).or
            (any (rest.map fun bound => ofOption ((some x).map (test bound)))) := rfl
      rw [hcons, ih, Option.map_some, or_ofOption_some]
      rfl

end Tests

end Truth

/-! ### Comparing values -/

/-- The order of two values of one type: texts by code points, *false* below *true*.  Values of
    different types have none, and a NaN has none with anything. -/
def Value.compare? : Value → Value → Option Ordering
  | .text s, .text t => some (compare s t)
  | .integer m, .integer n => some (compare m n)
  | .unsigned m, .unsigned n => some (compare m n)
  | .float x, .float y =>
    if x.isNaN || y.isNaN then none else some (compare x.signedMagnitude y.signedMagnitude)
  | .boolean b, .boolean c => some (compare b c)
  | _, _ => none

/-- The orders that a comparison accepts, the cell standing on the left. -/
def Comparison.accepts : Comparison → Ordering → Bool
  | .equal => Ordering.isEq
  | .notEqual => Ordering.isNe
  | .less => Ordering.isLT
  | .greater => Ordering.isGT
  | .lessOrEqual => Ordering.isLE
  | .greaterOrEqual => Ordering.isGE

/-! ### Patterns -/

/-- A part of a pattern. -/
inductive Wildcard where
  /-- Any characters, also none. -/
  | run
  /-- Any one character. -/
  | one
  | literal (c : Char)
deriving DecidableEq, Repr

def Wildcard.ofChar (c : Char) : Wildcard :=
  if c = '%' then .run else if c = '_' then .one else .literal c

/-- A pattern taken apart: a backslash makes the character after it literal.  There must be such
    a character. -/
def readPattern? : List Char → Option (List Wildcard)
  | [] => some []
  | c :: rest =>
    if c = '\\' then
      match rest with
      | [] => none
      | d :: more => (readPattern? more).map (.literal d :: ·)
    else (readPattern? rest).map (.ofChar c :: ·)

/-- Whether a text consists of what the parts of a pattern stand for. -/
def fits : List Wildcard → List Char → Bool
  | [], text => text.isEmpty
  | .run :: rest, text => text.tails.any (fits rest)
  | .one :: rest, text =>
    match text with
    | [] => false
    | _ :: more => fits rest more
  | .literal c :: rest, text =>
    match text with
    | [] => false
    | d :: more => c == d && fits rest more

/-- Whether a text matches a pattern. -/
def likes (pattern text : String) : Bool :=
  (readPattern? pattern.toList).any fun parts => fits parts text.toList

/-! ### Conditions -/

/-- The cells of a row; a missing cell has no value. -/
abbrev Record : Type := Column → Option Value

/-- How a cell compares with a value, if it does. -/
def order? (cell : Option Value) (value : Value) : Option Ordering :=
  cell.bind fun stored => stored.compare? value

/-- A match of a cell; only texts can be matched. -/
def match? (cell : Option Value) (pattern : String) : Option Bool :=
  match cell with
  | some (.text s) => some (likes pattern s)
  | _ => none

namespace Expr

/-- What a condition says of a row. -/
def truth (record : Record) : Expr → Truth
  | .compare column comparison value =>
    .ofOption ((order? (record column) value).map comparison.accepts)
  | .isNull column negated => .ofOption (some (negated ^^ (record column).isNone))
  | .isIn column negated values =>
    .negateIf negated <| .any <| values.map fun value =>
      .ofOption ((order? (record column) value).map Ordering.isEq)
  | .like column negated pattern => .negateIf negated (.ofOption (match? (record column) pattern))
  | .between column negated low high =>
    .negateIf negated <|
      Truth.and (.ofOption ((order? (record column) low).map Ordering.isGE))
        (.ofOption ((order? (record column) high).map Ordering.isLE))
  | .join .conjunction left right => (left.truth record).and (right.truth record)
  | .join .disjunction left right => (left.truth record).or (right.truth record)

end Expr

/-! A cell whose orders are those of a value makes a condition a test of the value. -/

section Orders

variable {α β : Type} {record : Record} {column : Column} {value : Option α}

theorem Expr.truth_compare {bound : Value} {order : α → Ordering}
    (h : order? (record column) bound = value.map order) (comparison : Comparison) :
    (Expr.compare column comparison bound).truth record
      = .ofOption (value.map fun x => comparison.accepts (order x)) := by
  rw [truth, h, Option.map_map]
  rfl

theorem Expr.truth_between {low high : Value} {least greatest : α → Ordering}
    (hlow : order? (record column) low = value.map least)
    (hhigh : order? (record column) high = value.map greatest) (negated : Bool) :
    (Expr.between column negated low high).truth record
      = .ofOption (value.map fun x => negated ^^ ((least x).isGE && (greatest x).isLE)) := by
  rw [truth, hlow, hhigh, Option.map_map, Option.map_map, Truth.and_map, Truth.negateIf_map]
  rfl

theorem Expr.truth_isIn {keys : List β} {bounds : List Value} {order : β → α → Ordering}
    (hne : keys ≠ [])
    (h : List.Forall₂ (fun key bound => order? (record column) bound = value.map (order key))
      keys bounds) (negated : Bool) :
    (Expr.isIn column negated bounds).truth record
      = .ofOption (value.map fun x => negated ^^ keys.any fun key => (order key x).isEq) := by
  have htests : bounds.map (fun bound =>
        Truth.ofOption ((order? (record column) bound).map Ordering.isEq))
      = keys.map fun key => Truth.ofOption (value.map fun x => (order key x).isEq) := by
    -- one test for each key, the list may be empty here
    clear hne
    induction h with
    | nil => rfl
    | cons hbound _ ih =>
      rw [List.map_cons, List.map_cons, ih, hbound, Option.map_map]
      rfl
  rw [truth, htests, Truth.any_map hne, Truth.negateIf_map]

end Orders

/-- A row is selected when the condition holds of it; without a condition every row is. -/
def Selects (record : Record) (condition : Option Expr) : Prop :=
  ∀ e ∈ condition, e.truth record = .holds

/-- Joined conditions select what each of them holds of. -/
theorem selects_all?_iff {record : Record} {conditions : List Expr} :
    Selects record (Expr.all? conditions) ↔ ∀ e ∈ conditions, e.truth record = .holds := by
  have hjoin : ∀ (rest : List Expr) (first : Expr),
      (rest.foldl (Expr.join .conjunction) first).truth record = .holds ↔
        first.truth record = .holds ∧ ∀ e ∈ rest, e.truth record = .holds := by
    intro rest
    induction rest with
    | nil => simp
    | cons next rest ih =>
      intro first
      rw [List.foldl_cons, ih, Expr.truth, Truth.and_eq_holds_iff, and_assoc,
        List.forall_mem_cons]
  cases conditions with
  | nil => simp [Selects, Expr.all?]
  | cons first rest =>
    rw [List.forall_mem_cons, ← hjoin]
    simp only [Selects, Expr.all?, Option.mem_some, forall_eq']

end Listing.Sql
