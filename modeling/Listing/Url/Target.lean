/-
  Listing/Url/Target.lean
  =======================
  **Path and query of a request target.**

  A target is a path with an optional query, an absolute URL, the asterisk alone,
  or an authority alone.  An absolute URL has a scheme, `://` and an authority
  before its path; without a path it stands for `/`.  What follows a `#` is no
  part of the target.
-/
import Listing.Text.Split

namespace Listing.Url

open Text (cut?)

def isSchemeChar (c : Char) : Bool := c.isAlphanum || c == '+' || c == '-' || c == '.' || c == '~'

/-- The part of an absolute URL after its authority, with whatever starts it; none
    for a target that is no absolute URL.  The scheme may be empty. -/
def afterAuthority? (target : List Char) : Option (List Char) :=
  match target.dropWhile isSchemeChar with
  | ':' :: '/' :: '/' :: rest => some (rest.dropWhile fun c => c != '/' && c != '?')
  | _ => none

/-- The part of a target from its path on.  An authority alone has no path. -/
def fromPath (target : List Char) : List Char :=
  match afterAuthority? target with
  | some [] => ['/']
  | some ('?' :: query) => '/' :: '?' :: query
  | some rest => rest
  | none =>
    match target with
    | '/' :: _ | ['*'] => target
    | _ => []

/-- Path and query of a target; the query is empty when there is none. -/
def pathAndQuery (target : List Char) : List Char × List Char :=
  let reference := fromPath (target.takeWhile (· != '#'))
  (cut? '?' reference).getD (reference, [])

end Listing.Url
