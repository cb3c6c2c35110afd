/-
  Listing/Proofs/Decoding.lean
  ============================
  **JSON text can be read back.**

  A value without floating-point numbers, whose integers fit a word, is written in a
  way that the reader undoes: reading its text gives the value in normal form
  (`ofText?_text`).  The induction is on the value, and carries a text that may
  follow, which must not look like the rest of a number.  Strings are read back part
  by part; a control character comes back as the 16-bit unit of its number.
-/
import Listing.Json.Reader
import Listing.Json.Writer
import Listing.Proofs.Order

namespace Listing

/-! ### Digits -/

namespace Text

theorem decimal_of_lt {n : Nat} (h : n < 10) : decimal n = [Nat.digitChar n] :=
  Nat.toDigits_of_lt_base h

theorem decimal_of_le {n : Nat} (h : 10 ≤ n) :
    decimal n = decimal (n / 10) ++ [Nat.digitChar (n % 10)] :=
  Nat.toDigits_of_base_le (by decide) h

/-- A positive number is written without leading zeros. -/
theorem exists_decimal_of_pos {n : Nat} (h : 0 < n) : ∃ c cs, decimal n = c :: cs ∧ c ≠ '0' := by
  induction n using Nat.strongRecOn with
  | ind n ih =>
    by_cases hn : n < 10
    · have hdigit : ∀ d < 10, 0 < d → Nat.digitChar d ≠ '0' := by decide
      exact ⟨Nat.digitChar n, [], decimal_of_lt hn, hdigit n hn h⟩
    · obtain ⟨c, cs, hrest, hc⟩ := ih (n / 10) (by omega) (by omega)
      rw [decimal_of_le (by omega), hrest]
      exact ⟨c, cs ++ [Nat.digitChar (n % 10)], rfl, hc⟩

end Text

namespace Json

open Number (spanDigits)

/-! ### Values that are written exactly -/

/-- The value holds no floating-point number, and its integers fit a signed or an unsigned
    word. -/
inductive Integral : Json → Prop
  | null : Integral .null
  | bool (b : Bool) : Integral (.bool b)
  | integer {n : Int} (least : -(Text.maxSigned : Int) - 1 ≤ n) (greatest : n ≤ Text.maxUnsigned) :
      Integral (.number (.integer n))
  | string (s : String) : Integral (.string s)
  | array {items : List Json} (all : ∀ item ∈ items, Integral item) : Integral (.array items)
  | object {fields : List (String × Json)} (all : ∀ field ∈ fields, Integral field.2) :
      Integral (.object fields)

/-! ### Strings -/

theorem hexValue?_hexDigit (n : Nat) : hexValue? (hexDigit n) = some (n % 16) := by
  have hdigits : ∀ d < 16, hexValue? (Nat.digitChar d) = some d := by decide
  exact hdigits (n % 16) (Nat.mod_lt n (by decide))

/-- The controls that are escaped by a letter. -/
def lettered : List Char := ['\x08', '\x0c', '\n', '\r', '\t']

/-- The part of a string that a character is read back as. -/
def partOf (c : Char) : StringPart :=
  if c.toNat < 0x20 ∧ c ∉ lettered then .unit c.toNat else .char c

theorem stringParts?_letter {letter c : Char} (h : escaped? letter = some c) (cs : List Char) :
    stringParts? ('\\' :: letter :: cs)
      = (stringParts? cs).map fun (parts, after) => (.char c :: parts, after) := by
  have hletter : letter ≠ 'u' := by
    rintro rfl
    cases h
  rw [stringParts?]
  · simp only [h]
    cases stringParts? cs <;> rfl
  · rintro a b c d rest hu -
    exact hletter hu

theorem stringParts?_plain {c : Char} (hquote : c ≠ '"') (hbackslash : c ≠ '\\')
    (hcontrol : ¬ c.toNat < 0x20) (cs : List Char) :
    stringParts? (c :: cs)
      = (stringParts? cs).map fun (parts, after) => (.char c :: parts, after) := by
  rw [stringParts?]
  · rw [if_neg hcontrol]
    cases stringParts? cs <;> rfl
  · exact hquote
  · exact fun _ _ _ _ _ h _ => hbackslash h
  · exact fun _ _ h _ => hbackslash h

theorem stringParts?_control {c : Char} (hcontrol : c.toNat < 0x20) (cs : List Char) :
    stringParts? ('\\' :: 'u' :: '0' :: '0' :: hexDigit (c.toNat / 16) :: hexDigit c.toNat :: cs)
      = (stringParts? cs).map fun (parts, after) => (.unit c.toNat :: parts, after) := by
  have hzero : hexValue? '0' = some 0 := rfl
  have hunit : c.toNat / 16 % 16 * 16 + c.toNat % 16 = c.toNat := by omega
  rw [stringParts?]
  simp only [hzero, hexValue?_hexDigit, Option.bind_eq_bind, Option.bind_some, Nat.zero_mul,
    Nat.zero_add, hunit]
  cases stringParts? cs <;> rfl

/-- What is written for a character is read back as its part. -/
theorem stringParts?_escapeChar (c : Char) (cs : List Char) :
    stringParts? (escapeChar c ++ cs)
      = (stringParts? cs).map fun (parts, after) => (partOf c :: parts, after) := by
  by_cases hspecial : c ∈ '"' :: '\\' :: lettered
  · simp only [lettered, List.mem_cons, List.not_mem_nil, or_false] at hspecial
    rcases hspecial with rfl | rfl | rfl | rfl | rfl | rfl | rfl
    all_goals exact stringParts?_letter rfl cs
  · have hlettered : c ∉ lettered := fun h =>
      hspecial (List.mem_cons_of_mem _ (List.mem_cons_of_mem _ h))
    simp only [lettered, List.mem_cons, List.not_mem_nil, or_false, not_or] at hspecial
    obtain ⟨hquote, hbackslash, hb, hf, hn, hr, ht⟩ := hspecial
    simp only [escapeChar, hquote, hbackslash, hb, hf, hn, hr, ht, if_false]
    by_cases hcontrol : c.toNat < 0x20
    · rw [if_pos hcontrol, partOf, if_pos ⟨hcontrol, hlettered⟩]
      exact stringParts?_control hcontrol cs
    · rw [if_neg hcontrol, partOf, if_neg fun h => hcontrol h.1]
      exact stringParts?_plain hquote hbackslash hcontrol cs

theorem stringParts?_append (cs after : List Char) :
    stringParts? (cs.flatMap escapeChar ++ '"' :: after) = some (cs.map partOf, after) := by
  induction cs with
  | nil => rw [List.flatMap_nil, List.nil_append, stringParts?, List.map_nil]
  | cons c rest ih =>
    rw [List.flatMap_cons, List.append_assoc, stringParts?_escapeChar, ih, Option.map_some,
      List.map_cons]

/-- A unit below the surrogates is a character by itself. -/
theorem joinParts?_unit {n : Nat} (h : n < 0xD800) (parts : List StringPart) :
    joinParts? (.unit n :: parts) = (joinParts? parts).map (Char.ofNat n :: ·) := by
  have hhigh : ¬ (0xD800 ≤ n ∧ n < 0xDC00) := by omega
  have hlow : ¬ (0xDC00 ≤ n ∧ n < 0xE000) := by omega
  have hany : ¬ (0xD800 ≤ n ∧ n < 0xE000) := by omega
  cases parts with
  | nil => simp only [joinParts?, hany, if_false]
  | cons next rest =>
    cases next with
    | char c => simp only [joinParts?, hany, if_false]
    | unit low => rw [joinParts?, if_neg hhigh, if_neg hlow]

theorem joinParts?_map_partOf (cs : List Char) : joinParts? (cs.map partOf) = some cs := by
  induction cs with
  | nil => rfl
  | cons c rest ih =>
    rw [List.map_cons]
    by_cases hunit : c.toNat < 0x20 ∧ c ∉ lettered
    · have hpart : partOf c = .unit c.toNat := if_pos hunit
      rw [hpart, joinParts?_unit (by omega), ih, Option.map_some, Char.ofNat_toNat]
    · have hpart : partOf c = .char c := if_neg hunit
      rw [hpart, joinParts?, ih, Option.map_some]

/-- A string is read back as it was, up to its closing quote. -/
theorem string?_append (s : String) (after : List Char) :
    string? (s.toList.flatMap escapeChar ++ '"' :: after) = some (s, after) := by
  simp only [string?, stringParts?_append, joinParts?_map_partOf, Option.bind_eq_bind,
    Option.bind_some, String.ofList_toList]
  rfl

/-! ### Numbers -/

/-- What stands behind a value: nothing, or first a comma or a closing bracket. -/
def Ended (rest : List Char) : Prop := ∀ c ∈ rest.head?, c = ',' ∨ c = ']' ∨ c = '\x7d'

theorem ended_nil : Ended [] := by
  intro c h
  cases h

theorem ended_cons {c : Char} (h : c = ',' ∨ c = ']' ∨ c = '\x7d') (cs : List Char) :
    Ended (c :: cs) := by
  intro d hd
  cases hd
  exact h

theorem Ended.spanDigits_append {digits rest : List Char}
    (hdigits : ∀ c ∈ digits, c.isDigit = true) (h : Ended rest) :
    spanDigits (digits ++ rest) = (digits, rest) := by
  have hrest : rest.takeWhile Char.isDigit = [] ∧ rest.dropWhile Char.isDigit = rest := by
    cases rest with
    | nil => exact ⟨rfl, rfl⟩
    | cons c cs => rcases h c rfl with rfl | rfl | rfl <;> exact ⟨rfl, rfl⟩
  rw [spanDigits, List.takeWhile_append_of_pos hdigits, List.dropWhile_append_of_pos hdigits,
    hrest.1, hrest.2, List.append_nil]

theorem Ended.fractionPart? {rest : List Char} (h : Ended rest) :
    fractionPart? rest = some (false, [], rest) := by
  cases rest with
  | nil => rfl
  | cons c cs => rcases h c rfl with rfl | rfl | rfl <;> rfl

theorem Ended.exponentPart? {rest : List Char} (h : Ended rest) :
    exponentPart? rest = some (false, 0, rest) := by
  cases rest with
  | nil => rfl
  | cons c cs => rcases h c rfl with rfl | rfl | rfl <;> rfl

theorem isWholePart_decimal (n : Nat) : isWholePart (Text.decimal n) = true := by
  rcases Nat.eq_zero_or_pos n with rfl | hpos
  · rfl
  · obtain ⟨c, cs, hn, hc⟩ := Text.exists_decimal_of_pos hpos
    rw [hn, isWholePart]
    · simpa using hc
    · rintro rfl -
      exact hc rfl

/-- An integer that fits a word is read back, with nothing of what follows it. -/
theorem number?_decimalInt {n : Int} (hleast : -(Text.maxSigned : Int) - 1 ≤ n)
    (hgreatest : n ≤ Text.maxUnsigned) {rest : List Char} (hrest : Ended rest) :
    number? (Text.decimalInt n ++ rest) = some (.integer n, rest) := by
  have hspan : spanDigits (Text.decimal n.natAbs ++ rest) = (Text.decimal n.natAbs, rest) :=
    hrest.spanDigits_append fun _ hc => Text.isDigit_of_mem_decimal hc
  have hvalue : Nat.ofDigitChars 10 (Text.decimal n.natAbs) 0 = n.natAbs :=
    Nat.ofDigitChars_ten_toDigits
  by_cases hneg : n < 0
  · have hword : integerWord? true n.natAbs = some n := by
      rw [integerWord?, if_pos rfl, if_neg (by omega)]
      exact congrArg some (by omega)
    rw [Text.decimalInt, if_pos hneg, List.cons_append]
    simp only [number?, hspan, isWholePart_decimal, hrest.fractionPart?, hrest.exponentPart?, hvalue,
      hword, Option.bind_eq_bind, Option.bind_some, Bool.not_true, Bool.false_eq_true, if_false,
      Bool.or_self]
    rfl
  · have hword : integerWord? false n.natAbs = some n := by
      rw [integerWord?, if_neg (by decide), if_pos (by omega)]
      exact congrArg some (by omega)
    have hminus : ∀ cs, Text.decimal n.natAbs ++ rest ≠ '-' :: cs := by
      obtain ⟨c, others, hn, hc⟩ := Text.exists_decimal n.natAbs
      rintro cs heq
      rw [hn, List.cons_append] at heq
      cases heq
      cases hc
    rw [Text.decimalInt, if_neg hneg]
    simp only [number?, hspan, isWholePart_decimal, hrest.fractionPart?, hrest.exponentPart?, hvalue,
      hword, Option.bind_eq_bind, Option.bind_some, Bool.not_true, Bool.false_eq_true, if_false,
      Bool.or_self]
    rfl

/-! ### Values -/

theorem skipBlanks_cons {c : Char} (h : 0x20 < c.toNat) (cs : List Char) :
    skipBlanks (c :: cs) = c :: cs := by
  have hne : ∀ d : Char, d.toNat ≤ 0x20 → (c == d) = false := by
    intro d hd
    refine beq_eq_false_iff_ne.2 ?_
    rintro rfl
    omega
  simp only [skipBlanks, List.dropWhile_cons, hne ' ' (by decide), hne '\n' (by decide),
    hne '\t' (by decide), hne '\r' (by decide), Bool.or_self, Bool.false_eq_true, if_false]

section Steps

variable (fuel : Nat) (cs : List Char)

theorem value?_quote :
    value? (fuel + 1) ('"' :: cs) = (string? cs).map fun (s, after) => (.string s, after) := rfl

variable {cs}

theorem value?_array (hblank : skipBlanks cs = cs) (hclosed : ∀ after, cs ≠ ']' :: after) :
    value? (fuel + 1) ('[' :: cs)
      = (items? fuel cs).map fun (items, after) => (.array items, after) := by
  have hstart : skipBlanks ('[' :: cs) = '[' :: cs := rfl
  simp only [value?, hstart, hblank]

theorem value?_object (key : List Char) :
    value? (fuel + 1) ('\x7b' :: '"' :: key)
      = (fields? fuel ('"' :: key)).map fun (fields, after) => (ofFields fields, after) := rfl

theorem value?_number {c : Char} (h : c = '-' ∨ c.isDigit = true) (cs : List Char) :
    value? (fuel + 1) (c :: cs) = (number? (c :: cs)).map fun (n, after) => (.number n, after) := by
  rcases h with rfl | hdigit
  · rfl
  · have hdigits : 48 ≤ c.toNat ∧ c.toNat ≤ 57 := Char.isDigit_iff_toNat.1 hdigit
    have hblank : skipBlanks (c :: cs) = c :: cs := skipBlanks_cons (by omega) cs
    have hne : ∀ d, d.isDigit = false → c ≠ d := by
      rintro d hd rfl
      exact Bool.noConfusion (hd.symm.trans hdigit)
    have hquote : c ≠ '"' := hne _ rfl
    have hbracket : c ≠ '[' := hne _ rfl
    have hbrace : c ≠ '\x7b' := hne _ rfl
    simp only [value?, hblank, hne 'n' rfl, hne 't' rfl, hne 'f' rfl, if_false]

/-- No value starts with a closing bracket. -/
theorem value?_closed (cs : List Char) : value? fuel (']' :: cs) = none := by
  cases fuel <;> rfl

end Steps

/-! ### Texts of values -/

theorem length_text_pos (value : Json) : 0 < value.text.length := by
  obtain ⟨c, cs, htext, -⟩ := Memory.exists_text value
  rw [htext]
  exact Nat.succ_pos _

theorem skipBlanks_text_append (value : Json) (cs : List Char) :
    skipBlanks (value.text ++ cs) = value.text ++ cs := by
  obtain ⟨c, others, htext, hc⟩ := Memory.exists_text value
  rw [htext, List.cons_append, skipBlanks_cons]
  omega

theorem ended_itemsText (items : List Json) (rest : List Char) :
    Ended (itemsText items ++ rest) := by
  cases items with
  | nil => exact ended_cons (.inr (.inl rfl)) _
  | cons item more => exact ended_cons (.inl rfl) _

theorem ended_fieldsText (fields : List (String × Json)) (rest : List Char) :
    Ended (fieldsText fields ++ rest) := by
  cases fields with
  | nil => exact ended_cons (.inr (.inr rfl)) _
  | cons field more => exact ended_cons (.inl rfl) _

/-- The text of a field: its key, a colon and its value. -/
def fieldText (field : String × Json) : List Char := stringText field.1 ++ ':' :: field.2.text

theorem fieldsText_cons (field : String × Json) (rest : List (String × Json)) :
    fieldsText (field :: rest) = ',' :: (fieldText field ++ fieldsText rest) := by
  simp only [fieldsText, fieldText, List.cons_append, List.append_assoc]

/-- With so much fuel the readers undo the writer, on any text that is not longer. -/
structure Reads (fuel : Nat) : Prop where
  value : ∀ {value : Json} {rest : List Char}, value.Integral → Ended rest →
    value.text.length ≤ fuel → value? fuel (value.text ++ rest) = some (value.normalise, rest)
  items : ∀ {item : Json} {more : List Json} (rest : List Char),
    (∀ other ∈ item :: more, other.Integral) →
    item.text.length + (itemsText more).length ≤ fuel →
    items? fuel (item.text ++ (itemsText more ++ rest))
      = some (normaliseItems (item :: more), rest)
  fields : ∀ {field : String × Json} {more : List (String × Json)} (rest : List Char),
    (∀ other ∈ field :: more, other.2.Integral) →
    (fieldText field).length + (fieldsText more).length ≤ fuel →
    fields? fuel (fieldText field ++ (fieldsText more ++ rest))
      = some (normaliseFields (field :: more), rest)

theorem reads_zero : Reads 0 where
  value := by
    intro value rest _ _ hfuel
    have hpos := length_text_pos value
    omega
  items := by
    intro item more rest _ hfuel
    have hpos := length_text_pos item
    omega
  fields := by
    intro field more rest _ hfuel
    have hpos := length_text_pos field.2
    simp only [fieldText, List.length_append, List.length_cons] at hfuel
    omega

variable {fuel : Nat}

theorem Reads.value_succ (h : Reads fuel) {value : Json} {rest : List Char}
    (hvalue : value.Integral) (hrest : Ended rest) (hfuel : value.text.length ≤ fuel + 1) :
    value? (fuel + 1) (value.text ++ rest) = some (value.normalise, rest) := by
  cases hvalue with
  | null => rfl
  | bool b => cases b <;> rfl
  | @integer n least greatest =>
    obtain ⟨c, cs, htext, hc⟩ := (JsonNumber.integer n).exists_text
    have hnumber : number? (c :: cs ++ rest) = some (.integer n, rest) := by
      rw [← htext]
      exact number?_decimalInt least greatest hrest
    rw [text, htext, List.cons_append, value?_number fuel hc, ← List.cons_append, hnumber]
    rfl
  | string s =>
    rw [text, stringText, List.cons_append, List.cons_append, List.append_assoc, value?_quote,
      List.singleton_append, string?_append]
    rfl
  | @array items all =>
    cases items with
    | nil => rfl
    | cons item more =>
      rw [text, List.cons_append, List.length_cons, List.length_append] at hfuel
      rw [text, List.cons_append, List.cons_append, List.append_assoc]
      have hitems := h.items rest all (by omega)
      -- The text behind the bracket does not close the array, or no item could be read from it.
      have hclosed : ∀ after, item.text ++ (itemsText more ++ rest) ≠ ']' :: after := by
        intro after heq
        have hitem : value? fuel (item.text ++ (itemsText more ++ rest)) = some _ :=
          h.value (all item List.mem_cons_self) (ended_itemsText more rest) (by omega)
        rw [heq, value?_closed] at hitem
        cases hitem
      rw [value?_array fuel (skipBlanks_text_append item _) hclosed, hitems, Option.map_some,
        normalise]
  | @object fields all =>
    cases fields with
    | nil => rfl
    | cons field more =>
      obtain ⟨key, value⟩ := field
      have hfields := h.fields rest all
      simp only [text, fieldText, stringText, List.cons_append, List.append_assoc, List.length_cons,
        List.length_append] at hfuel hfields ⊢
      rw [value?_object, hfields (by omega), Option.map_some, normalise]

theorem Reads.items_succ (h : Reads fuel) {item : Json} {more : List Json} (rest : List Char)
    (all : ∀ other ∈ item :: more, other.Integral)
    (hfuel : item.text.length + (itemsText more).length ≤ fuel + 1) :
    items? (fuel + 1) (item.text ++ (itemsText more ++ rest))
      = some (normaliseItems (item :: more), rest) := by
  obtain ⟨hitem, hmore⟩ := List.forall_mem_cons.1 all
  have hpos := length_text_pos item
  cases more with
  | nil =>
    rw [itemsText, List.length_singleton] at hfuel
    have hvalue := h.value hitem (ended_itemsText [] rest) (by omega)
    rw [items?, hvalue]
    rfl
  | cons next others =>
    simp only [itemsText, List.length_cons, List.length_append] at hfuel
    have hvalue := h.value hitem (ended_itemsText (next :: others) rest) (by omega)
    have hitems := h.items rest hmore (by omega)
    have hskip : skipBlanks (itemsText (next :: others) ++ rest)
        = ',' :: (next.text ++ (itemsText others ++ rest)) := by
      rw [itemsText, List.cons_append, List.cons_append, List.append_assoc]
      rfl
    simp only [items?, hvalue, hskip, hitems, Option.map_some]
    rfl

theorem Reads.fields_succ (h : Reads fuel) {field : String × Json}
    {more : List (String × Json)} (rest : List Char)
    (all : ∀ other ∈ field :: more, other.2.Integral)
    (hfuel : (fieldText field).length + (fieldsText more).length ≤ fuel + 1) :
    fields? (fuel + 1) (fieldText field ++ (fieldsText more ++ rest))
      = some (normaliseFields (field :: more), rest) := by
  obtain ⟨hfield, hmore⟩ := List.forall_mem_cons.1 all
  obtain ⟨key, value⟩ := field
  have hlength : (fieldText (key, value)).length
      = (stringText key).length + (value.text.length + 1) := by
    simp only [fieldText, List.length_append, List.length_cons]
  have htext : fieldText (key, value) ++ (fieldsText more ++ rest)
      = '"' :: (key.toList.flatMap escapeChar
          ++ '"' :: ':' :: (value.text ++ (fieldsText more ++ rest))) := by
    simp only [fieldText, stringText, List.cons_append, List.append_assoc, List.nil_append]
  have hpos := length_text_pos value
  have hvalue : value? fuel (value.text ++ (fieldsText more ++ rest))
      = some (value.normalise, fieldsText more ++ rest) :=
    h.value hfield (ended_fieldsText more rest) (by omega)
  have hstart : ∀ cs, skipBlanks ('"' :: cs) = '"' :: cs := fun _ => rfl
  have hcolon : ∀ cs, skipBlanks (':' :: cs) = ':' :: cs := fun _ => rfl
  simp only [fields?, htext, hstart, string?_append, hcolon, hvalue]
  cases more with
  | nil => rfl
  | cons next others =>
    rw [fieldsText_cons, List.length_cons, List.length_append] at hfuel
    have hfields := h.fields rest hmore (by omega)
    have hskip : skipBlanks (fieldsText (next :: others) ++ rest)
        = ',' :: (fieldText next ++ (fieldsText others ++ rest)) := by
      rw [fieldsText_cons, List.cons_append, List.append_assoc]
      rfl
    simp only [hskip, hfields, Option.map_some]
    rfl

theorem reads (fuel : Nat) : Reads fuel := by
  -- All three readers recurse on the fuel, and none gets less than the length of its text.
  induction fuel with
  | zero => exact reads_zero
  | succ fuel ih => exact ⟨ih.value_succ, ih.items_succ, ih.fields_succ⟩

/-- **What is written can be read back.**  The text of a value without floating-point numbers,
    whose integers fit a word, is read as the value in normal form. -/
theorem ofText?_text {value : Json} (h : value.Integral) :
    ofText? value.text = some value.normalise := by
  have hread := (reads (value.text.length + 1)).value h ended_nil (Nat.le_succ _)
  rw [List.append_nil] at hread
  rw [ofText?, hread]
  rfl

end Json

end Listing
