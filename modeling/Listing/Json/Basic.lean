/-
  Listing/Json/Basic.lean
  =======================
  **JSON values.**

  An integer and a floating-point number are different values even when they are
  equal as numbers: `1` and `1.0` are written differently.  An object is a list
  of fields.  Fields stand in the order in which they were put there; a *normal*
  object has them ascending by key, each key once, and `normalise` makes every
  object inside a value normal, the last of several equal keys winning.
-/
import Listing.Number.Layout
import Listing.Number.Rounding
import Listing.Text.Numeral

namespace Listing

open Number (Binary64)

/-! ### Numbers -/

/-- A number: an exact integer, or a finite 64-bit floating-point number. -/
inductive JsonNumber where
  | integer (n : Int)
  | float (x : Binary64) (finite : x.isFinite = true)
deriving DecidableEq, Repr

namespace JsonNumber

def text : JsonNumber → List Char
  | .integer n => Text.decimalInt n
  | .float x _ => Number.Layout.json.render x

def toBinary64 : JsonNumber → Binary64
  | .integer n => Binary64.ofInt n
  | .float x _ => x

end JsonNumber

/-! ### Values -/

inductive Json where
  | null
  | bool (b : Bool)
  | number (n : JsonNumber)
  | string (s : String)
  | array (items : List Json)
  | object (fields : List (String × Json))

namespace Json

def ofNat (n : Nat) : Json := .number (.integer n)

/-- A value that may be missing; `null` stands for a missing one. -/
def ofOption : Option Json → Json
  | some v => v
  | none => .null

/-- The value of a field of an object; no other value has fields. -/
def field? (key : String) : Json → Option Json
  | .object fields => fields.lookup key
  | _ => none

def isNull : Json → Bool
  | .null => true
  | _ => false

/-! ### Normal objects -/

/-- Put a field in its place among fields ascending by key; a field with the same
    key is replaced. -/
def insertField (key : String) (value : Json) : List (String × Json) → List (String × Json)
  | [] => [(key, value)]
  | (k, v) :: rest =>
    match compare key k with
    | .lt => (key, value) :: (k, v) :: rest
    | .eq => (key, value) :: rest
    | .gt => (k, v) :: insertField key value rest

/-- Fields in ascending order of their keys; of equal keys the last one wins. -/
def sortFields (fields : List (String × Json)) : List (String × Json) :=
  fields.foldl (fun sorted (k, v) => insertField k v sorted) []

def ofFields (fields : List (String × Json)) : Json := .object (sortFields fields)

mutual

/-- The value with every object in it in normal form. -/
def normalise : Json → Json
  | .array items => .array (normaliseItems items)
  | .object fields => ofFields (normaliseFields fields)
  | value => value

def normaliseItems : List Json → List Json
  | [] => []
  | item :: rest => item.normalise :: normaliseItems rest

def normaliseFields : List (String × Json) → List (String × Json)
  | [] => []
  | (k, v) :: rest => (k, v.normalise) :: normaliseFields rest

end

end Json

end Listing
