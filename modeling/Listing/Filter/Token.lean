/-
  Listing/Filter/Token.lean
  =========================
  **Filter tokens.**

  A token is `operator` or `operator:param,param,…`.  The text before the first
  colon is the operator's name, whether such an operator exists or not.  A comma
  that belongs to a parameter is written `\,`.

  While the parameters are cut apart, an escaped comma is held by a mark of
  thirteen characters that starts and ends with U+0000.  A token that contains
  the mark itself therefore reads it as a comma too.
-/
import Listing.Filter.Operator
import Listing.Text.Blank
import Listing.Text.Split

namespace Listing

open Text (cut? pieces replaceAll trim)

/-- A filter token taken apart: the operator's name as written, and the
    parameters in order. -/
structure Token where
  operator : String
  params : List String
deriving DecidableEq, Repr

namespace Token

/-- What holds the place of an escaped comma. -/
def commaMark : List Char := "\x00#DELIMITER#\x00".toList

/-- The parameters written after the colon; nothing there means no parameters. -/
def readParams (text : List Char) : List String :=
  if text = [] then []
  else
    (pieces ',' (replaceAll ['\\', ','] commaMark text)).map fun piece =>
      String.ofList (trim (replaceAll commaMark [','] piece))

def ofText (text : String) : Token :=
  match cut? ':' text.toList with
  | some (operator, params) => ⟨String.ofList operator, readParams params⟩
  | none => ⟨text, []⟩

def operator? (token : Token) : Option Operator := Operator.ofName? token.operator

/-- Whether the token has a number of parameters that its operator takes; a token
    without a known operator never has. -/
def hasValidArity (token : Token) : Bool :=
  token.operator?.any fun op => op.arity.accepts token.params.length

end Token

end Listing
