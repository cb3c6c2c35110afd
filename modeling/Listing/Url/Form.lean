/-
  Listing/Url/Form.lean
  =====================
  **Query strings.**

  A query string is a list of pairs, each `key=value`, joined by `&`.  Letters,
  digits and `*-._` stand for themselves, a space is written `+`, and every other
  octet of the UTF-8 form is written as a percent sign and two hexadecimal
  digits.

  Reading is lenient: an empty part between two `&` is passed over, a part
  without `=` is a key with the empty value, a percent sign that is not followed
  by two hexadecimal digits stands for itself, and octets that are no text become
  U+FFFD.
-/
import Listing.Text.Split
import Listing.Url.Utf8

namespace Listing.Url

open Text (cut? pieces)

/-! ### Octets with a meaning -/

def octet (c : Char) : Nat := c.toNat

/-- Whether an octet stands for itself. -/
def isPlain (b : Nat) : Bool :=
  (0x30 ≤ b && b ≤ 0x39) || (0x41 ≤ b && b ≤ 0x5A) || (0x61 ≤ b && b ≤ 0x7A)
    || b == octet '*' || b == octet '-' || b == octet '.' || b == octet '_'

/-! ### Writing -/

def escapeOctet (b : Nat) : List Char :=
  if isPlain b then [Char.ofNat b]
  else if b = 0x20 then ['+']
  else ['%', (Nat.digitChar (b / 16)).toUpper, (Nat.digitChar (b % 16)).toUpper]

def escape (s : String) : List Char := (encode s.toList).flatMap escapeOctet

def pairText (pair : String × String) : List Char := escape pair.1 ++ '=' :: escape pair.2

def writeForm (pairs : List (String × String)) : List Char :=
  ['&'].intercalate (pairs.map pairText)

/-! ### Reading -/

def hexOctet? (b : Nat) : Option Nat :=
  if 0x30 ≤ b ∧ b ≤ 0x39 then some (b - 0x30)
  else if 0x41 ≤ b ∧ b ≤ 0x46 then some (b - 0x41 + 10)
  else if 0x61 ≤ b ∧ b ≤ 0x66 then some (b - 0x61 + 10)
  else none

def percentDecode : List Nat → List Nat
  | [] => []
  | b :: rest =>
    if b = octet '%' then
      match rest with
      | high :: low :: more =>
        match hexOctet? high, hexOctet? low with
        | some h, some l => (16 * h + l) :: percentDecode more
        | _, _ => b :: percentDecode (high :: low :: more)
      | [last] => [b, last]
      | [] => [b]
    else b :: percentDecode rest

/-- The text of a key or a value: `+` is a space. -/
def unescape (bs : List Nat) : String :=
  String.ofList (decode (percentDecode (bs.map fun b => if b = octet '+' then 0x20 else b)))

/-- Key and value of one part, cut at the first `=`. -/
def readPair (part : List Nat) : String × String :=
  match cut? (octet '=') part with
  | some (key, value) => (unescape key, unescape value)
  | none => (unescape part, "")

def readForm (query : List Char) : List (String × String) :=
  ((pieces (octet '&') (encode query)).filter (· ≠ [])).map readPair

end Listing.Url
