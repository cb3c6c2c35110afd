/-
  Listing/Json/Writer.lean
  ========================
  **JSON text, compact.**

  No blanks between the tokens.  Inside a string only the quote, the backslash
  and the controls below U+0020 are escaped; five controls have a letter of their
  own, the others are written with four hexadecimal digits.
-/
import Listing.Json.Basic

namespace Listing.Json

/-! ### Strings -/

def hexDigit (n : Nat) : Char := Nat.digitChar (n % 16)

def escapeChar (c : Char) : List Char :=
  if c = '"' then ['\\', '"']
  else if c = '\\' then ['\\', '\\']
  else if c = '\x08' then ['\\', 'b']
  else if c = '\x0c' then ['\\', 'f']
  else if c = '\n' then ['\\', 'n']
  else if c = '\r' then ['\\', 'r']
  else if c = '\t' then ['\\', 't']
  else if c.toNat < 0x20 then ['\\', 'u', '0', '0', hexDigit (c.toNat / 16), hexDigit c.toNat]
  else [c]

def stringText (s : String) : List Char := '"' :: s.toList.flatMap escapeChar ++ ['"']

/-! ### Values -/

mutual

def text : Json → List Char
  | .null => "null".toList
  | .bool true => "true".toList
  | .bool false => "false".toList
  | .number n => n.text
  | .string s => stringText s
  | .array [] => ['[', ']']
  | .array (item :: rest) => '[' :: item.text ++ itemsText rest
  | .object [] => ['\x7b', '\x7d']
  | .object ((k, v) :: rest) => '\x7b' :: stringText k ++ ':' :: v.text ++ fieldsText rest

/-- The further items of an array and its closing bracket. -/
def itemsText : List Json → List Char
  | [] => [']']
  | item :: rest => ',' :: item.text ++ itemsText rest

/-- The further fields of an object and its closing brace. -/
def fieldsText : List (String × Json) → List Char
  | [] => ['\x7d']
  | (k, v) :: rest => ',' :: stringText k ++ ':' :: v.text ++ fieldsText rest

end

def render (value : Json) : String := String.ofList value.text

end Listing.Json
