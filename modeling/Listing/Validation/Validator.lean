/-
  Listing/Validation/Validator.lean
  =================================
  **Checking a value against a rule string.**

  A rule string names rules separated by `|`, each with optional arguments after
  a colon, separated by commas (`integer|min:1|in:a,b`).  Blank parts are passed
  over.  The rules run in order up to the first complaint.  A rule that no one
  defined is a mistake in the configuration, found only when it is reached.
-/
import Listing.Text.Split
import Listing.Validation.Rule

namespace Listing

open Text (cut? pieces trim)

/-! ### Rule strings -/

/-- A rule as written: its name, and its arguments in order. -/
structure RuleCall where
  name : String
  arguments : List String
deriving DecidableEq, Repr

namespace RuleCall

def ofText (text : List Char) : RuleCall :=
  match cut? ':' text with
  | some (name, arguments) =>
    ⟨String.ofList name, (pieces ',' arguments).map fun piece => String.ofList (trim piece)⟩
  | none => ⟨String.ofList text, []⟩

def all (rules : String) : List RuleCall :=
  (((pieces '|' rules.toList).map trim).filter (· ≠ [])).map ofText

end RuleCall

/-! ### Validators -/

/-- A rule string names a rule that no one defined. -/
structure UnknownRule where
  name : String
deriving DecidableEq, Repr

/-- A validator: the standard rules, and rules of its own, which win over standard
    rules of the same name. -/
structure Validator where
  own : List (String × Rule)

namespace Validator

def standard : Validator := ⟨[]⟩

/-- Define a rule; an earlier rule of the same name is replaced. -/
def define (validator : Validator) (name : String) (rule : Rule) : Validator :=
  ⟨(name, rule) :: validator.own⟩

def rule? (validator : Validator) (name : String) : Option Rule :=
  (validator.own.lookup name).or (Rule.standard.lookup name)

/-- Run rules in order up to the first complaint. -/
def run (validator : Validator) (field value : String) :
    List RuleCall → Except UnknownRule (Option Complaint)
  | [] => .ok none
  | call :: rest =>
    match validator.rule? call.name with
    | none => .error ⟨call.name⟩
    | some rule =>
      match rule field value call.arguments with
      | some complaint => .ok (some complaint)
      | none => validator.run field value rest

/-- Check a value against a rule string: the violation found, if any. -/
def check (validator : Validator) (field value rules : String) :
    Except UnknownRule (Option Violation) :=
  (validator.run field value (RuleCall.all rules)).map fun found =>
    found.map (Violation.mk field)

theorem run_append (validator : Validator) (field value : String) (first second : List RuleCall) :
    validator.run field value (first ++ second) =
      match validator.run field value first with
      | .ok none => validator.run field value second
      | other => other := by
  induction first with
  | nil => rfl
  | cons call rest ih =>
    simp only [List.cons_append, run]
    cases validator.rule? call.name with
    | none => rfl
    | some rule =>
      cases h : rule field value call.arguments with
      | none => simpa [h] using ih
      | some complaint => simp [h]

end Validator

end Listing
