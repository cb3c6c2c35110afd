/-
  Listing/Proofs/Forms.lean
  =========================
  **Query strings are read back as they were written.**

  The round trip is built from the inside: a character from its octets, an octet
  from its written form, a text from its escaped form, a pair from its part, and
  the list of pairs from the whole query string (`readForm_writeForm`).  It holds of
  any texts, since nothing that separates is left in an escaped text.
-/
import Listing.Url.Form

namespace Listing

open Text (cut? pieces)

/-! ### Characters -/

namespace Url

theorem decode_one {a : Nat} (ha : a < 0x80) (rest : List Nat) :
    decode (a :: rest) = Char.ofNat a :: decode rest := by
  rw [decode.eq_def]
  simp only [ha, if_true]

theorem decode_two {a b : Nat} (ha : 0xC2 ≤ a ∧ a < 0xE0) (hb : isContinuation b = true)
    (rest : List Nat) :
    decode (a :: b :: rest) = Char.ofNat ((a - 0xC0) * 0x40 + (b - 0x80)) :: decode rest := by
  have hone : ¬ a < 0x80 := by omega
  rw [decode.eq_def]
  simp only [hone, ha, hb, if_false, if_true, and_self]

theorem decode_three {a b c : Nat} (ha : 0xE0 ≤ a ∧ a < 0xF0) (hb : secondOfThree a b = true)
    (hc : isContinuation c = true) (rest : List Nat) :
    decode (a :: b :: c :: rest)
      = Char.ofNat ((a - 0xE0) * 0x1000 + (b - 0x80) * 0x40 + (c - 0x80)) :: decode rest := by
  have hone : ¬ a < 0x80 := by omega
  have htwo : ¬ (0xC2 ≤ a ∧ a < 0xE0) := by omega
  rw [decode.eq_def]
  simp only [hone, htwo, ha, hb, hc, if_false, if_true, and_self]

theorem decode_four {a b c d : Nat} (ha : 0xF0 ≤ a ∧ a < 0xF5) (hb : secondOfFour a b = true)
    (hc : isContinuation c = true) (hd : isContinuation d = true) (rest : List Nat) :
    decode (a :: b :: c :: d :: rest)
      = Char.ofNat ((a - 0xF0) * 0x40000 + (b - 0x80) * 0x1000 + (c - 0x80) * 0x40 + (d - 0x80))
        :: decode rest := by
  have hone : ¬ a < 0x80 := by omega
  have htwo : ¬ (0xC2 ≤ a ∧ a < 0xE0) := by omega
  have hthree : ¬ (0xE0 ≤ a ∧ a < 0xF0) := by omega
  rw [decode.eq_def]
  simp only [hone, htwo, hthree, ha, hb, hc, hd, if_false, if_true, and_self]

theorem isContinuation_iff {b : Nat} : isContinuation b = true ↔ 0x80 ≤ b ∧ b < 0xC0 := by
  simp [isContinuation]

/-- A character is read from its octets, whatever follows them. -/
theorem decode_encodeChar_append (c : Char) (rest : List Nat) :
    decode (encodeChar c ++ rest) = c :: decode rest := by
  have hvalid : c.toNat < 0xD800 ∨ 0xDFFF < c.toNat ∧ c.toNat < 0x110000 := c.valid
  have hchar : ∀ {n}, n = c.toNat → Char.ofNat n :: decode rest = c :: decode rest := by
    rintro n rfl
    rw [Char.ofNat_toNat]
  unfold encodeChar
  simp only
  split
  · rename_i h1
    exact (decode_one h1 rest).trans (hchar rfl)
  · rename_i h1
    split
    · rename_i h2
      refine (decode_two (by omega) (isContinuation_iff.2 (by omega)) rest).trans (hchar ?_)
      omega
    · rename_i h2
      split
      · rename_i h3
        have hsecond : secondOfThree (0xE0 + c.toNat / 0x1000) (0x80 + c.toNat / 0x40 % 0x40)
            = true := by
          simp only [secondOfThree, Bool.and_eq_true, Bool.or_eq_true, isContinuation_iff,
            bne_iff_ne, decide_eq_true_eq]
          omega
        refine (decode_three (by omega) hsecond (isContinuation_iff.2 (by omega)) rest).trans
          (hchar ?_)
        omega
      · rename_i h3
        have hsecond : secondOfFour (0xF0 + c.toNat / 0x40000) (0x80 + c.toNat / 0x1000 % 0x40)
            = true := by
          simp only [secondOfFour, Bool.and_eq_true, Bool.or_eq_true, isContinuation_iff,
            bne_iff_ne, decide_eq_true_eq]
          omega
        refine (decode_four (by omega) hsecond (isContinuation_iff.2 (by omega))
          (isContinuation_iff.2 (by omega)) rest).trans (hchar ?_)
        omega

theorem decode_encode (cs : List Char) : decode (encode cs) = cs := by
  induction cs with
  | nil => rfl
  | cons c rest ih =>
    rw [encode, List.flatMap_cons, decode_encodeChar_append]
    exact congrArg (c :: ·) ih

theorem encode_append (cs ds : List Char) : encode (cs ++ ds) = encode cs ++ encode ds :=
  List.flatMap_append

theorem encode_of_ascii {cs : List Char} (h : ∀ c ∈ cs, c.toNat < 0x80) :
    encode cs = cs.map Char.toNat := by
  induction cs with
  | nil => rfl
  | cons c rest ih =>
    obtain ⟨hc, hrest⟩ := List.forall_mem_cons.1 h
    have hchar : encodeChar c = [c.toNat] := by
      simp only [encodeChar, hc, if_true]
    rw [encode, List.flatMap_cons, hchar, List.map_cons]
    exact congrArg (c.toNat :: ·) (ih hrest)

theorem lt_of_mem_encodeChar {c : Char} {b : Nat} (h : b ∈ encodeChar c) : b < 256 := by
  have hvalid : c.toNat < 0xD800 ∨ 0xDFFF < c.toNat ∧ c.toNat < 0x110000 := c.valid
  unfold encodeChar at h
  simp only at h
  split at h
  · simp only [List.mem_singleton] at h
    omega
  · split at h
    · simp only [List.mem_cons, List.not_mem_nil, or_false] at h
      omega
    · split at h
      · simp only [List.mem_cons, List.not_mem_nil, or_false] at h
        omega
      · simp only [List.mem_cons, List.not_mem_nil, or_false] at h
        omega

theorem lt_of_mem_encode {cs : List Char} {b : Nat} (h : b ∈ encode cs) : b < 256 := by
  obtain ⟨c, -, hb⟩ := List.mem_flatMap.1 h
  exact lt_of_mem_encodeChar hb

/-! ### Octets -/

/-- An octet with `+` read as a space. -/
def unplus (b : Nat) : Nat := if b = octet '+' then 0x20 else b

/-- An octet that stands for itself is ASCII, and none of the octets with a meaning. -/
theorem octet_of_isPlain {b : Nat} (h : isPlain b = true) :
    b < 0x80 ∧ b ≠ octet '+' ∧ b ≠ octet '%' ∧ b ≠ octet '&' ∧ b ≠ octet '=' := by
  simp only [isPlain, octet, Char.reduceToNat, Bool.or_eq_true, Bool.and_eq_true,
    decide_eq_true_eq, beq_iff_eq] at h ⊢
  omega

theorem toNat_ofNat_of_ascii {b : Nat} (h : b < 0x80) : (Char.ofNat b).toNat = b := by
  have hvalid : b.isValidChar := .inl (by omega)
  rw [Char.ofNat, dif_pos hvalid]
  rfl

theorem unplus_of_ne {b : Nat} (h : b ≠ octet '+') : unplus b = b := if_neg h

/-- A hexadecimal digit is ASCII and no octet with a meaning, and it is read as its value. -/
theorem hexOctet?_digit {d : Nat} (hd : d < 16) :
    (Nat.digitChar d).toUpper.toNat < 0x80 ∧
      (Nat.digitChar d).toUpper ≠ '+' ∧ (Nat.digitChar d).toUpper ≠ '&' ∧
      (Nat.digitChar d).toUpper ≠ '=' ∧
      hexOctet? (Nat.digitChar d).toUpper.toNat = some d := by
  have hall : ∀ d < 16, (Nat.digitChar d).toUpper.toNat < 0x80 ∧
      (Nat.digitChar d).toUpper ≠ '+' ∧ (Nat.digitChar d).toUpper ≠ '&' ∧
      (Nat.digitChar d).toUpper ≠ '=' ∧
      hexOctet? (Nat.digitChar d).toUpper.toNat = some d := by
    decide
  exact hall d hd

/-- The written form of an octet is ASCII text without separators. -/
theorem escapeOctet_separates {b : Nat} (hb : b < 256) :
    ∀ c ∈ escapeOctet b, c.toNat < 0x80 ∧ c ≠ '&' ∧ c ≠ '=' := by
  intro c hc
  unfold escapeOctet at hc
  split at hc
  · rename_i hplain
    obtain ⟨hascii, -, -, hamp, heq⟩ := octet_of_isPlain hplain
    have htoNat := toNat_ofNat_of_ascii hascii
    rw [List.mem_singleton.1 hc, htoNat]
    refine ⟨hascii, ?_, ?_⟩
    · intro hchar
      rw [hchar] at htoNat
      exact hamp htoNat.symm
    · intro hchar
      rw [hchar] at htoNat
      exact heq htoNat.symm
  · split at hc
    · rw [List.mem_singleton.1 hc]
      decide
    · simp only [List.mem_cons, List.not_mem_nil, or_false] at hc
      rcases hc with rfl | rfl | rfl
      · decide
      · obtain ⟨hascii, -, hamp, heq, -⟩ := hexOctet?_digit (show b / 16 < 16 by omega)
        exact ⟨hascii, hamp, heq⟩
      · obtain ⟨hascii, -, hamp, heq, -⟩ := hexOctet?_digit (show b % 16 < 16 by omega)
        exact ⟨hascii, hamp, heq⟩

theorem percentDecode_cons_of_ne {b : Nat} (h : b ≠ octet '%') (rest : List Nat) :
    percentDecode (b :: rest) = b :: percentDecode rest := by
  rw [percentDecode.eq_def]
  simp only [h, if_false]

/-- An octet is read from its written form, whatever follows it. -/
theorem percentDecode_escapeOctet {b : Nat} (hb : b < 256) (rest : List Nat) :
    percentDecode (((escapeOctet b).map Char.toNat).map unplus ++ rest)
      = b :: percentDecode rest := by
  unfold escapeOctet
  split
  · rename_i hplain
    obtain ⟨hascii, hplus, hpercent, -⟩ := octet_of_isPlain hplain
    simp only [List.map_cons, List.map_nil, toNat_ofNat_of_ascii hascii, unplus_of_ne hplus,
      List.singleton_append]
    exact percentDecode_cons_of_ne hpercent rest
  · split
    · rename_i hspace
      rw [hspace]
      exact percentDecode_cons_of_ne (by decide) rest
    · obtain ⟨-, hhighPlus, -, -, hhigh⟩ := hexOctet?_digit (show b / 16 < 16 by omega)
      obtain ⟨-, hlowPlus, -, -, hlow⟩ := hexOctet?_digit (show b % 16 < 16 by omega)
      have hpercent : unplus '%'.toNat = octet '%' := by decide
      have hunplus : ∀ c : Char, c ≠ '+' → unplus c.toNat = c.toNat := by
        intro c hc
        refine unplus_of_ne ?_
        intro heq
        exact hc (Char.toNat_inj.1 heq)
      simp only [List.map_cons, List.map_nil, hunplus _ hhighPlus, hunplus _ hlowPlus, hpercent,
        List.cons_append, List.nil_append]
      rw [percentDecode.eq_def]
      simp only [if_true, hhigh, hlow]
      rw [Nat.div_add_mod]

/-! ### Texts -/

theorem escape_separates (s : String) :
    ∀ c ∈ escape s, c.toNat < 0x80 ∧ c ≠ '&' ∧ c ≠ '=' := by
  intro c hc
  obtain ⟨b, hb, hc⟩ := List.mem_flatMap.1 hc
  exact escapeOctet_separates (lt_of_mem_encode hb) c hc

/-- A text is read from its escaped form. -/
theorem unescape_escape (s : String) : unescape ((escape s).map Char.toNat) = s := by
  have hdecode : ∀ bs : List Nat, (∀ b ∈ bs, b < 256) →
      percentDecode (((bs.flatMap escapeOctet).map Char.toNat).map unplus) = bs := by
    intro bs h
    induction bs with
    | nil => rfl
    | cons b rest ih =>
      obtain ⟨hb, hrest⟩ := List.forall_mem_cons.1 h
      rw [List.flatMap_cons, List.map_append, List.map_append, percentDecode_escapeOctet hb,
        ih hrest]
  have hoctets := hdecode (encode s.toList) fun _ => lt_of_mem_encode
  have hread : unescape ((escape s).map Char.toNat)
      = String.ofList (decode (percentDecode (((escape s).map Char.toNat).map unplus))) := rfl
  rw [hread, escape, hoctets, decode_encode, String.ofList_toList]

/-! ### Pairs -/

/-- A pair is read from its part. -/
theorem readPair_pairText (pair : String × String) :
    readPair ((pairText pair).map Char.toNat) = pair := by
  have hkey : octet '=' ∉ (escape pair.1).map Char.toNat := by
    intro hmem
    obtain ⟨c, hc, heq⟩ := List.mem_map.1 hmem
    exact (escape_separates pair.1 c hc).2.2 (Char.toNat_inj.1 heq)
  have htext : (pairText pair).map Char.toNat
      = (escape pair.1).map Char.toNat ++ octet '=' :: (escape pair.2).map Char.toNat := by
    rw [pairText, List.map_append, List.map_cons]
    rfl
  rw [htext, readPair, Text.cut?_append hkey]
  simp only [unescape_escape]

theorem pieces_intercalate {sep : Nat} {parts : List (List Nat)} (hne : parts ≠ [])
    (h : ∀ part ∈ parts, sep ∉ part) : pieces sep ([sep].intercalate parts) = parts := by
  induction parts with
  | nil => exact absurd rfl hne
  | cons part rest ih =>
    obtain ⟨hpart, hrest⟩ := List.forall_mem_cons.1 h
    cases rest with
    | nil => rw [List.intercalate_singleton, Text.pieces_of_notMem hpart]
    | cons next others =>
      rw [List.intercalate_cons_cons, List.append_assoc, List.singleton_append,
        Text.pieces_append, Text.pieces_of_notMem hpart, ih (List.cons_ne_nil _ _) hrest]
      rfl

theorem pairText_separates (pair : String × String) :
    ∀ c ∈ pairText pair, c.toNat < 0x80 ∧ c ≠ '&' := by
  intro c hc
  rcases List.mem_append.1 hc with hc | hc
  · obtain ⟨hascii, hne, -⟩ := escape_separates pair.1 c hc
    exact ⟨hascii, hne⟩
  · rcases List.mem_cons.1 hc with rfl | hc
    · decide
    · obtain ⟨hascii, hne, -⟩ := escape_separates pair.2 c hc
      exact ⟨hascii, hne⟩

theorem pairText_ne_nil (pair : String × String) : pairText pair ≠ [] := by
  intro hnil
  have hmem : '=' ∈ pairText pair := List.mem_append_right _ List.mem_cons_self
  rw [hnil] at hmem
  cases hmem

theorem encode_pairText (pair : String × String) :
    encode (pairText pair) = (pairText pair).map Char.toNat :=
  encode_of_ascii fun c hc => (pairText_separates pair c hc).1

/-- The octets of a query string are those of its parts, joined alike. -/
theorem encode_writeForm (pairs : List (String × String)) :
    encode (writeForm pairs)
      = [octet '&'].intercalate (pairs.map fun pair => (pairText pair).map Char.toNat) := by
  have hsep : encode ['&'] = [octet '&'] := rfl
  unfold writeForm
  induction pairs with
  | nil => rfl
  | cons pair rest ih =>
    cases rest with
    | nil => simp only [List.map_cons, List.map_nil, List.intercalate_singleton, encode_pairText]
    | cons next others =>
      simp only [List.map_cons, List.intercalate_cons_cons] at ih ⊢
      rw [encode_append, encode_append, ih, hsep, encode_pairText]

/-- **Pairs are read from the query string that was written for them.** -/
theorem readForm_writeForm (pairs : List (String × String)) :
    readForm (writeForm pairs) = pairs := by
  by_cases hpairs : pairs = []
  · rw [hpairs]
    rfl
  · have hparts : (pairs.map fun pair => (pairText pair).map Char.toNat) ≠ [] := by
      simpa using hpairs
    have hsep : ∀ part ∈ pairs.map fun pair => (pairText pair).map Char.toNat,
        octet '&' ∉ part := by
      intro part hpart hmem
      obtain ⟨pair, -, rfl⟩ := List.mem_map.1 hpart
      obtain ⟨c, hc, heq⟩ := List.mem_map.1 hmem
      exact (pairText_separates pair c hc).2 (Char.toNat_inj.1 heq)
    have hfull : ∀ part ∈ pairs.map fun pair => (pairText pair).map Char.toNat,
        decide (part ≠ []) = true := by
      intro part hpart
      obtain ⟨pair, -, rfl⟩ := List.mem_map.1 hpart
      simpa using pairText_ne_nil pair
    have hread : readPair ∘ (fun pair => (pairText pair).map Char.toNat) = id :=
      funext readPair_pairText
    rw [readForm, encode_writeForm, pieces_intercalate hparts hsep, List.filter_eq_self.2 hfull,
      List.map_map, hread, List.map_id]

end Url

end Listing
