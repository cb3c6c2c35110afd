/-
  Listing/Text/Numeral.lean
  =========================
  **Integers as decimal text.**

  `decimal` writes a natural number.  The three readers accept ASCII digits only:
  `natural?` bare digits, `unsigned?` an optional `+` and a value that fits an
  unsigned 64-bit word, `signed?` an optional sign and a value that fits a signed
  one.  A reader refuses the empty text, a lone sign and any other character,
  white space included: callers trim first.
-/

namespace Listing.Text

/-! ### Bounds of the words -/

def maxUnsigned : Nat := 18446744073709551615

def maxSigned : Nat := 9223372036854775807

def fitsSigned (n : Int) : Bool := -(maxSigned : Int) - 1 ≤ n && n ≤ maxSigned

/-! ### Writing -/

/-- The decimal digits of a natural number, without leading zeros. -/
def decimal (n : Nat) : List Char := Nat.toDigits 10 n

def decimalInt (n : Int) : List Char :=
  if n < 0 then '-' :: decimal n.natAbs else decimal n.natAbs

/-! ### Reading -/

def natural? (cs : List Char) : Option Nat :=
  if cs ≠ [] ∧ cs.all Char.isDigit then some (Nat.ofDigitChars 10 cs 0) else none

def dropPlus : List Char → List Char
  | '+' :: rest => rest
  | cs => cs

/-- An optional plus sign and digits, within an unsigned 64-bit word. -/
def unsigned? (cs : List Char) : Option Nat :=
  (natural? (dropPlus cs)).filter (· ≤ maxUnsigned)

def integer? : List Char → Option Int
  | '-' :: rest => (natural? rest).map fun n => -(n : Int)
  | cs => (natural? (dropPlus cs)).map Int.ofNat

/-- An optional sign and digits, within a signed 64-bit word. -/
def signed? (cs : List Char) : Option Int := (integer? cs).filter fitsSigned

theorem dropPlus_of_ne {cs : List Char} (h : ∀ rest, cs ≠ '+' :: rest) : dropPlus cs = cs := by
  unfold dropPlus
  split
  · rename_i rest
    exact absurd rfl (h rest)
  · rfl

theorem integer?_minus (cs : List Char) :
    integer? ('-' :: cs) = (natural? cs).map fun n : Nat => -(n : Int) := by
  rw [integer?]
  cases natural? cs <;> rfl

theorem integer?_of_ne {cs : List Char} (h : ∀ rest, cs ≠ '-' :: rest) :
    integer? cs = (natural? (dropPlus cs)).map Int.ofNat := by
  unfold integer?
  split
  · rename_i rest
    exact absurd rfl (h rest)
  · rfl

/-! ### Decimals -/

theorem decimal_ne_nil (n : Nat) : decimal n ≠ [] := Nat.toDigits_ne_nil

theorem isDigit_of_mem_decimal {n : Nat} {c : Char} (h : c ∈ decimal n) : c.isDigit = true :=
  Nat.isDigit_of_mem_toDigits (by decide) (by decide) h

theorem notMem_decimal {c : Char} (h : c.isDigit = false) (n : Nat) : c ∉ decimal n := by
  intro hmem
  rw [isDigit_of_mem_decimal hmem] at h
  cases h

theorem exists_decimal (n : Nat) : ∃ c cs, decimal n = c :: cs ∧ c.isDigit = true := by
  obtain ⟨c, cs, hn⟩ := List.exists_cons_of_ne_nil (decimal_ne_nil n)
  exact ⟨c, cs, hn, isDigit_of_mem_decimal (hn ▸ List.mem_cons_self)⟩

theorem natural?_decimal (n : Nat) : natural? (decimal n) = some n := by
  have hall : (decimal n).all Char.isDigit = true :=
    List.all_eq_true.2 fun _ hc => isDigit_of_mem_decimal hc
  rw [natural?, if_pos ⟨decimal_ne_nil n, hall⟩, decimal, Nat.ofDigitChars_ten_toDigits]

theorem dropPlus_decimal (n : Nat) : dropPlus (decimal n) = decimal n := by
  refine dropPlus_of_ne ?_
  intro rest heq
  exact absurd (heq ▸ List.mem_cons_self) (notMem_decimal (c := '+') rfl n)

theorem unsigned?_decimal {n : Nat} (h : n ≤ maxUnsigned) : unsigned? (decimal n) = some n := by
  rw [unsigned?, dropPlus_decimal, natural?_decimal, Option.filter_eq_some_iff]
  exact ⟨rfl, decide_eq_true h⟩

theorem integer?_decimal (n : Nat) : integer? (decimal n) = some (n : Int) := by
  have hminus : ∀ rest, decimal n ≠ '-' :: rest := by
    intro rest heq
    exact absurd (heq ▸ List.mem_cons_self) (notMem_decimal (c := '-') rfl n)
  rw [integer?_of_ne hminus, dropPlus_decimal, natural?_decimal]
  rfl

theorem signed?_decimal {n : Nat} (h : n ≤ maxSigned) : signed? (decimal n) = some (n : Int) := by
  have hfits : fitsSigned (n : Int) = true := by
    simp only [fitsSigned, Bool.and_eq_true, decide_eq_true_eq]
    omega
  rw [signed?, integer?_decimal, Option.filter_some_pos hfits]

end Listing.Text
