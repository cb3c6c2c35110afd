/-
  Listing/Json/Reader.lean
  ========================
  **Reading JSON text.**

  A number without point and exponent is an integer when it fits a signed or an
  unsigned 64-bit word, any other number is floating-point; minus zero is a
  floating-point number.  A floating-point number is read in steps, from the
  leading digits that fit an unsigned word and a power of ten, each step rounded:
  with sixteen digits and more the answer may lie beside the nearest number.
  Objects are read into normal form.  A number too large for floating point and
  an unpaired surrogate are refused.

  The reader of values takes fuel, one unit a nesting step or list element; a
  text never needs more than its own length.
-/
import Listing.Json.Basic
import Listing.Number.Reader
import Listing.Number.Scaling

namespace Listing.Json

open Number (Binary64 spanDigits)

/-! ### Blanks and words -/

def skipBlanks (cs : List Char) : List Char :=
  cs.dropWhile fun c => c == ' ' || c == '\n' || c == '\t' || c == '\r'

def afterWord? (word cs : List Char) : Option (List Char) :=
  if word.isPrefixOf cs then some (cs.drop word.length) else none

/-! ### Strings -/

/-- A part of a string: a character, or a 16-bit unit given by number. -/
inductive StringPart where
  | char (c : Char)
  | unit (n : Nat)
deriving DecidableEq, Repr

def hexValue? (c : Char) : Option Nat :=
  if '0' ≤ c ∧ c ≤ '9' then some (c.toNat - 48)
  else if 'a' ≤ c ∧ c ≤ 'f' then some (c.toNat - 87)
  else if 'A' ≤ c ∧ c ≤ 'F' then some (c.toNat - 55)
  else none

def escaped? (c : Char) : Option Char :=
  match c with
  | '"' => some '"'
  | '\\' => some '\\'
  | '/' => some '/'
  | 'b' => some '\x08'
  | 'f' => some '\x0c'
  | 'n' => some '\n'
  | 'r' => some '\r'
  | 't' => some '\t'
  | _ => none

/-- The parts of a string up to its closing quote, and the text after it. -/
def stringParts? : List Char → Option (List StringPart × List Char)
  | [] => none
  | '"' :: rest => some ([], rest)
  | '\\' :: 'u' :: a :: b :: c :: d :: rest => do
    let unit := (← hexValue? a) * 4096 + (← hexValue? b) * 256 + (← hexValue? c) * 16
      + (← hexValue? d)
    let (parts, after) ← stringParts? rest
    return (.unit unit :: parts, after)
  | '\\' :: c :: rest => do
    let e ← escaped? c
    let (parts, after) ← stringParts? rest
    return (.char e :: parts, after)
  | c :: rest =>
    if c.toNat < 0x20 then none
    else do
      let (parts, after) ← stringParts? rest
      return (.char c :: parts, after)

/-- The characters of the parts; two surrogates in a row make one character. -/
def joinParts? : List StringPart → Option (List Char)
  | [] => some []
  | .char c :: rest => (joinParts? rest).map (c :: ·)
  | .unit high :: .unit low :: rest =>
    if 0xD800 ≤ high ∧ high < 0xDC00 then
      if 0xDC00 ≤ low ∧ low < 0xE000 then
        (joinParts? rest).map
          (Char.ofNat (0x10000 + (high - 0xD800) * 0x400 + (low - 0xDC00)) :: ·)
      else none
    else if 0xDC00 ≤ high ∧ high < 0xE000 then none
    else (joinParts? (.unit low :: rest)).map (Char.ofNat high :: ·)
  | .unit n :: rest =>
    if 0xD800 ≤ n ∧ n < 0xE000 then none else (joinParts? rest).map (Char.ofNat n :: ·)

def string? (cs : List Char) : Option (String × List Char) := do
  let (parts, after) ← stringParts? cs
  let chars ← joinParts? parts
  return (String.ofList chars, after)

/-! ### Numbers -/

/-- Whether digits are a whole part: one digit, or several not starting with 0. -/
def isWholePart : List Char → Bool
  | [] => false
  | ['0'] => true
  | c :: _ => c != '0'

/-- The integer of a text without point and exponent, if it fits a word. -/
def integerWord? (negative : Bool) (n : Nat) : Option Int :=
  if negative then if n = 0 ∨ Text.maxSigned + 1 < n then none else some (-(n : Int))
  else if n ≤ Text.maxUnsigned then some n else none

/-- Append digits to a number as long as it fits an unsigned word: the number, and
    how many digits are left over. -/
def appendDigits (n : Nat) : List Char → Nat × Nat
  | [] => (n, 0)
  | c :: rest =>
    let longer := 10 * n + (c.toNat - 48)
    if longer ≤ Text.maxUnsigned then appendDigits longer rest else (n, rest.length + 1)

/-- The magnitude of a floating-point number.  Of the digits that a word cannot
    hold, those before the point count as factors of ten and those after it are
    ignored. -/
def floatMagnitude (whole fraction : List Char) (power : Int) : Nat :=
  let (start, skipped) := appendDigits 0 whole
  let (word, ignored) := appendDigits start fraction
  Number.scaled (Number.nearest word 1) (power + skipped - (fraction.length - ignored : Nat))

/-- The fraction of a number: nothing, or a point and at least one digit.  The
    flag tells whether there is a point. -/
def fractionPart? : List Char → Option (Bool × List Char × List Char)
  | '.' :: rest =>
    let (digits, after) := spanDigits rest
    if digits.isEmpty then none else some (true, digits, after)
  | cs => some (false, [], cs)

/-- The exponent of a number: nothing, or a mark, an optional sign and at least
    one digit.  The flag tells whether there is a mark. -/
def exponentPart? : List Char → Option (Bool × Int × List Char)
  | mark :: rest =>
    if mark = 'e' ∨ mark = 'E' then
      let (sign, unsigned) : Int × List Char := match rest with
        | '-' :: more => (-1, more)
        | '+' :: more => (1, more)
        | more => (1, more)
      let (digits, after) := spanDigits unsigned
      if digits.isEmpty then none
      else some (true, sign * (Nat.ofDigitChars 10 digits 0 : Nat), after)
    else some (false, 0, mark :: rest)
  | [] => some (false, 0, [])

def number? (cs : List Char) : Option (JsonNumber × List Char) := do
  let (negative, unsigned) := match cs with
    | '-' :: rest => (true, rest)
    | _ => (false, cs)
  let (whole, rest) := spanDigits unsigned
  if !isWholePart whole then none
  let (hasPoint, fraction, rest) ← fractionPart? rest
  let (hasMark, power, after) ← exponentPart? rest
  match
    if hasPoint || hasMark then none
    else integerWord? negative (Nat.ofDigitChars 10 whole 0)
  with
  | some n => return (.integer n, after)
  | none =>
    let x : Binary64 := ⟨negative, floatMagnitude whole fraction power⟩
    if finite : x.isFinite then return (.float x finite, after) else none

/-! ### Values -/

mutual

def value? : Nat → List Char → Option (Json × List Char)
  | 0, _ => none
  | fuel + 1, cs =>
    match skipBlanks cs with
    | [] => none
    | '"' :: rest => (string? rest).map fun (s, after) => (.string s, after)
    | '[' :: rest =>
      match skipBlanks rest with
      | ']' :: after => some (.array [], after)
      | start => (items? fuel start).map fun (items, after) => (.array items, after)
    | '\x7b' :: rest =>
      match skipBlanks rest with
      | '\x7d' :: after => some (.object [], after)
      | start => (fields? fuel start).map fun (fields, after) => (ofFields fields, after)
    | c :: rest =>
      if c = 'n' then (afterWord? "ull".toList rest).map fun after => (.null, after)
      else if c = 't' then (afterWord? "rue".toList rest).map fun after => (.bool true, after)
      else if c = 'f' then (afterWord? "alse".toList rest).map fun after => (.bool false, after)
      else (number? (c :: rest)).map fun (n, after) => (.number n, after)

def items? : Nat → List Char → Option (List Json × List Char)
  | 0, _ => none
  | fuel + 1, cs =>
    match value? fuel cs with
    | none => none
    | some (item, rest) =>
      match skipBlanks rest with
      | ',' :: rest => (items? fuel rest).map fun (items, after) => (item :: items, after)
      | ']' :: after => some ([item], after)
      | _ => none

def fields? : Nat → List Char → Option (List (String × Json) × List Char)
  | 0, _ => none
  | fuel + 1, cs =>
    match skipBlanks cs with
    | '"' :: rest =>
      match string? rest with
      | none => none
      | some (key, rest) =>
        match skipBlanks rest with
        | ':' :: rest =>
          match value? fuel rest with
          | none => none
          | some (value, rest) =>
            match skipBlanks rest with
            | ',' :: rest =>
              (fields? fuel rest).map fun (fields, after) => ((key, value) :: fields, after)
            | '\x7d' :: after => some ([(key, value)], after)
            | _ => none
        | _ => none
    | _ => none

end

/-- Read a text that holds one value and nothing else but blanks. -/
def ofText? (cs : List Char) : Option Json :=
  match value? (cs.length + 1) cs with
  | some (value, rest) => if skipBlanks rest = [] then some value else none
  | none => none

end Listing.Json
