/-
  Listing/Text/Quoted.lean
  ========================
  **Quoted text in the log.**

  Log fields show filter parameters between double quotes, so that blanks and
  line breaks in them can be told apart.  Quotes and backslashes take a
  backslash, four controls have a letter of their own, and any other character
  without a visible form is shown by its number in hexadecimal.
-/
import Listing.Text.HiddenTable
import Listing.Text.Ranges

namespace Listing.Text

def quoteChar (c : Char) : List Char :=
  if c = '"' then ['\\', '"']
  else if c = '\\' then ['\\', '\\']
  else if c = '\t' then ['\\', 't']
  else if c = '\r' then ['\\', 'r']
  else if c = '\n' then ['\\', 'n']
  else if c = '\x00' then ['\\', '0']
  else if inRanges hiddenRanges c.toNat then
    ['\\', 'u', '\x7b'] ++ Nat.toDigits 16 c.toNat ++ ['\x7d']
  else [c]

def quoted (cs : List Char) : List Char := '"' :: cs.flatMap quoteChar ++ ['"']

/-- A list of texts: each between quotes, separated by commas, in brackets. -/
def quotedList (texts : List (List Char)) : List Char :=
  '[' :: [',', ' '].intercalate (texts.map quoted) ++ [']']

end Listing.Text
