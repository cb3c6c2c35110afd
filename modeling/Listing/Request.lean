/-
  Listing/Request.lean
  ====================
  **The query parameters of a request.**

  A request is a path and a list of pairs in their given order.  A key may carry
  brackets after its base name:

  * `name[entry]=value` sets the values of an entry, replacing earlier ones;
  * `name[entry][]=value`, or anything else after the first closing bracket,
    appends a value to the entry.

  `Request.map` reads all pairs of one base name into a table from entries to
  values, in order of first occurrence.
-/
import Listing.Text.Numeral
import Listing.Text.Split
import Listing.Url.Form
import Listing.Url.Target

namespace Listing

open Text (cut?)

/-! ### Requests -/

structure Request where
  path : String
  pairs : List (String × String)
deriving DecidableEq, Repr

namespace Request

def ofQuery (path query : String) : Request := ⟨path, Url.readForm query.toList⟩

def ofTarget (target : String) : Request :=
  let (path, query) := Url.pathAndQuery target.toList
  ⟨String.ofList path, Url.readForm query⟩

/-- The request for a target that was forwarded on its way: the target as the
    client sent it counts, so that links lead back to it. -/
def ofForwarded (target : String) (sent : Option String) : Request := ofTarget (sent.getD target)

/-! ### Keys -/

/-- The base name of a key, the text before its first bracket. -/
def baseName (key : String) : String :=
  match cut? '[' key.toList with
  | some (base, _) => String.ofList base
  | none => key

/-- What a key says after its base name: the entry between the first brackets,
    and whether anything follows them, in which case the value is appended. -/
structure Bracket where
  entry : String
  appends : Bool
deriving DecidableEq, Repr

/-- Read the text of a key after the base name and the opening bracket.  The entry
    must be closed and must not be empty. -/
def Bracket.ofText? (text : List Char) : Option Bracket :=
  match cut? ']' text with
  | some ([], _) => none
  | some (entry, tail) => some ⟨String.ofList entry, !tail.isEmpty⟩
  | none => none

def bracket? (key : String) : Option Bracket :=
  (cut? '[' key.toList).bind fun (_, text) => Bracket.ofText? text

/-! ### Single values -/

/-- The last value of a key given without brackets. -/
def get? (request : Request) (key : String) : Option String := request.pairs.reverse.lookup key

/-- Whether a parameter is given, with or without brackets. -/
def has (request : Request) (name : String) : Bool :=
  request.pairs.any fun pair => baseName pair.1 == name

/-! ### Bracketed parameters -/

/-- Values by entry, in order of first occurrence. -/
abbrev Table : Type := List (String × List String)

/-- Change the values of an entry; a new entry goes to the end. -/
def Table.alter (entry : String) (change : List String → List String) : Table → Table
  | [] => [(entry, change [])]
  | (e, values) :: rest =>
    if e = entry then (e, change values) :: rest else (e, values) :: Table.alter entry change rest

/-- Enter one value: it is appended to the entry's values or replaces them. -/
def Table.enter (table : Table) (bracket : Bracket) (value : String) : Table :=
  table.alter bracket.entry fun values => if bracket.appends then values ++ [value] else [value]

/-- Enter the values of pairs that share a base name; `none` when a pair has no
    proper bracket. -/
def Table.enterAll? : Table → List (String × String) → Option Table
  | table, [] => some table
  | table, (key, value) :: rest =>
    (bracket? key).bind fun bracket => (table.enter bracket value).enterAll? rest

inductive Bracketed where
  | absent
  /-- A pair of the name has no proper bracket. -/
  | malformed
  | table (entries : Table)
deriving DecidableEq, Repr

def pairsOf (request : Request) (name : String) : List (String × String) :=
  request.pairs.filter fun pair => baseName pair.1 == name

def map (request : Request) (name : String) : Bracketed :=
  match request.pairsOf name with
  | [] => .absent
  | pairs =>
    match Table.enterAll? [] pairs with
    | some entries => .table entries
    | none => .malformed

/-! ### Links -/

/-- Pairs with the offset replaced: page numbers go, the first offset takes the new
    value, further offsets go.  `replaced` tells whether one was met. -/
def replaceOffset (offset : String) (replaced : Bool) :
    List (String × String) → List (String × String)
  | [] => if replaced then [] else [("offset", offset)]
  | (key, value) :: rest =>
    if key = "page" then replaceOffset offset replaced rest
    else if key = "offset" then
      if replaced then replaceOffset offset true rest
      else (key, offset) :: replaceOffset offset true rest
    else (key, value) :: replaceOffset offset replaced rest

/-- The same request at another offset, which is added when there was none. -/
def atOffset (request : Request) (offset : Nat) : Request :=
  { request with
    pairs := replaceOffset (String.ofList (Text.decimal offset)) false request.pairs }

def url (request : Request) : String :=
  request.path ++ "?" ++ String.ofList (Url.writeForm request.pairs)

def urlAt (request : Request) (offset : Nat) : String := (request.atOffset offset).url

end Request

end Listing
