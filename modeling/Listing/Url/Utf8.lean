/-
  Listing/Url/Utf8.lean
  =====================
  **Characters as octets.**

  Percent-encoding works on octets, so text is encoded in UTF-8 before it is
  written into a URL and decoded after it was read.  `decode` accepts any octets:
  each longest start of a character that is not continued as it should be is
  replaced by U+FFFD.  Octets are natural numbers below 256.
-/

namespace Listing.Url

/-! ### Encoding -/

def encodeChar (c : Char) : List Nat :=
  let n := c.toNat
  if n < 0x80 then [n]
  else if n < 0x800 then [0xC0 + n / 0x40, 0x80 + n % 0x40]
  else if n < 0x10000 then [0xE0 + n / 0x1000, 0x80 + n / 0x40 % 0x40, 0x80 + n % 0x40]
  else
    [0xF0 + n / 0x40000, 0x80 + n / 0x1000 % 0x40, 0x80 + n / 0x40 % 0x40, 0x80 + n % 0x40]

def encode (cs : List Char) : List Nat := cs.flatMap encodeChar

theorem encodeChar_ne_nil (c : Char) : encodeChar c ≠ [] := by
  simp only [encodeChar]
  split
  · simp
  · split
    · simp
    · split <;> simp

/-! ### Decoding -/

/-- What stands for octets that are no character. -/
def replacement : Char := '\ufffd'

def isContinuation (b : Nat) : Bool := 0x80 ≤ b && b < 0xC0

/-- Whether an octet may follow the first octet of a character of three octets:
    no overlong forms, no surrogates. -/
def secondOfThree (first b : Nat) : Bool :=
  isContinuation b && (first != 0xE0 || 0xA0 ≤ b) && (first != 0xED || b < 0xA0)

/-- Whether an octet may follow the first octet of a character of four octets: no
    overlong forms, nothing beyond U+10FFFF. -/
def secondOfFour (first b : Nat) : Bool :=
  isContinuation b && (first != 0xF0 || 0x90 ≤ b) && (first != 0xF4 || b < 0x90)

def decode : List Nat → List Char
  | [] => []
  | a :: rest =>
    if a < 0x80 then Char.ofNat a :: decode rest
    else if 0xC2 ≤ a ∧ a < 0xE0 then
      match rest with
      | b :: more =>
        if isContinuation b then Char.ofNat ((a - 0xC0) * 0x40 + (b - 0x80)) :: decode more
        else replacement :: decode (b :: more)
      | [] => [replacement]
    else if 0xE0 ≤ a ∧ a < 0xF0 then
      match rest with
      | b :: more =>
        if secondOfThree a b then
          match more with
          | c :: others =>
            if isContinuation c then
              Char.ofNat ((a - 0xE0) * 0x1000 + (b - 0x80) * 0x40 + (c - 0x80)) :: decode others
            else replacement :: decode (c :: others)
          | [] => [replacement]
        else replacement :: decode (b :: more)
      | [] => [replacement]
    else if 0xF0 ≤ a ∧ a < 0xF5 then
      match rest with
      | b :: more =>
        if secondOfFour a b then
          match more with
          | c :: others =>
            if isContinuation c then
              match others with
              | d :: last =>
                if isContinuation d then
                  Char.ofNat ((a - 0xF0) * 0x40000 + (b - 0x80) * 0x1000 + (c - 0x80) * 0x40
                    + (d - 0x80)) :: decode last
                else replacement :: decode (d :: last)
              | [] => [replacement]
            else replacement :: decode (c :: others)
          | [] => [replacement]
        else replacement :: decode (b :: more)
      | [] => [replacement]
    else replacement :: decode rest

end Listing.Url
