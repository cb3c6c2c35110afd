/-
  Listing/Proofs/Scanning.lean
  ============================
  **Tokens read in one pass.**

  The documentation reads the parameters of a token from left to right: an escaped
  comma belongs to the parameter, any other comma ends it (`scanFrom`, `Says`).  The
  library cuts at the commas after it put a mark in the place of every escaped one,
  and takes the marks back in each piece (`restored`).  Both go through the text with
  the same steps, as long as the mark is not met where no comma was.  A text can hold
  the mark, or all of it but the end where an escaped comma follows, whose own mark
  then completes it.  Those are the only texts that are read in another way
  (`says_ofText_iff`).
-/
import Listing.Filter.Token
import Mathlib.Data.List.Infix

namespace Listing.Token

open Text (cut? extend isBlank pieces replaceAll trim trimEnd)

/-! ### One pass over the text -/

/-- One pass over the text behind the colon, `current` being the parameter as far as it
    was read. -/
def scanFrom (current : List Char) : List Char → List (List Char)
  | [] => [current]
  | '\\' :: ',' :: rest => scanFrom (current ++ [',']) rest
  | ',' :: rest => current :: scanFrom [] rest
  | c :: rest => scanFrom (current ++ [c]) rest

def scan (text : List Char) : List String :=
  (scanFrom [] text).map fun param => String.ofList (trim param)

/-- What a token says: the operator is what stands before the first colon, and what stands
    behind it, if anything, is scanned for parameters. -/
inductive Says : String → Token → Prop
  | bare {text : String} (plain : ':' ∉ text.toList) : Says text ⟨text, []⟩
  | closed {operator : String} (plain : ':' ∉ operator.toList) :
      Says (operator ++ ":") ⟨operator, []⟩
  | given {operator params : String} (plain : ':' ∉ operator.toList) (written : params ≠ "") :
      Says (operator ++ ":" ++ params) ⟨operator, scan params.toList⟩

/-- An escaped comma, any other comma, or any other character comes first. -/
theorem scan_induction {motive : List Char → Prop} (nil : motive [])
    (escaped : ∀ rest, motive rest → motive ('\\' :: ',' :: rest))
    (comma : ∀ rest, motive rest → motive (',' :: rest))
    (other : ∀ c rest, c ≠ ',' → ¬ ['\\', ','] <+: c :: rest → motive rest → motive (c :: rest)) :
    ∀ text, motive text
  | [] => nil
  | c :: rest => by
    by_cases hcomma : c = ','
    · rw [hcomma]
      exact comma rest (scan_induction nil escaped comma other rest)
    · by_cases hescape : ['\\', ','] <+: c :: rest
      · obtain ⟨more, hmore⟩ := hescape
        cases hmore
        exact escaped more (scan_induction nil escaped comma other more)
      · exact other c rest hcomma hescape (scan_induction nil escaped comma other rest)

theorem scanFrom_other (current : List Char) {c : Char} {rest : List Char} (hcomma : c ≠ ',')
    (hescape : ¬ ['\\', ','] <+: c :: rest) :
    scanFrom current (c :: rest) = scanFrom (current ++ [c]) rest := by
  rw [scanFrom]
  · rintro more rfl rfl
    exact hescape (List.prefix_append ['\\', ','] more)
  · exact hcomma

/-- What was read of a parameter stands in front of what is read of it later. -/
theorem scanFrom_eq_extend (current text : List Char) :
    scanFrom current text = extend current (scanFrom [] text) := by
  induction text using scan_induction generalizing current with
  | nil => simp only [scanFrom, extend, List.append_nil]
  | escaped rest ih =>
    rw [scanFrom, scanFrom, ih, ih ([] ++ [',']), Text.extend_extend, List.nil_append]
  | comma rest => simp only [scanFrom, extend, List.append_nil]
  | other c rest hcomma hescape ih =>
    rw [scanFrom_other current hcomma hescape, scanFrom_other [] hcomma hescape, ih,
      ih ([] ++ [c]), Text.extend_extend, List.nil_append]

/-! ### The mark -/

/-- The mark without its last character. -/
def markOpening : List Char := "\x00#DELIMITER#".toList

/-- What completes an opened mark: its last character, or the mark of an escaped comma. -/
def markEndings : List (List Char) := [['\x00'], ['\\', ',']]

/-- The text starts with a mark as soon as the escaped commas are marked. -/
def StartsMark (text : List Char) : Prop := ∃ ending ∈ markEndings, markOpening ++ ending <+: text

/-- A mark is met in the text where no comma was. -/
def MeetsMark (text : List Char) : Prop := ∃ ending ∈ markEndings, markOpening ++ ending <:+: text

theorem meetsMark_cons {c : Char} {rest : List Char} :
    MeetsMark (c :: rest) ↔ StartsMark (c :: rest) ∨ MeetsMark rest := by
  simp only [MeetsMark, StartsMark, List.infix_cons_iff, and_or_left, exists_or]

theorem not_meetsMark_nil : ¬ MeetsMark [] := by
  rintro ⟨ending, -, hinfix⟩
  have hnil := List.infix_nil.1 hinfix
  cases hnil

theorem eq_of_startsMark {c : Char} {rest : List Char} (h : StartsMark (c :: rest)) :
    c = '\x00' := by
  obtain ⟨ending, -, hprefix⟩ := h
  exact (List.cons_prefix_cons.1 hprefix).1.symm

/-! ### Marks put in and taken back -/

/-- The pieces of a text in which escaped commas are marked. -/
def held (text : List Char) : List (List Char) :=
  pieces ',' (replaceAll ['\\', ','] commaMark text)

def restored (text : List Char) : List (List Char) :=
  (held text).map (replaceAll commaMark [','])

section Steps

variable {c : Char} {rest : List Char}

theorem held_ne_nil (text : List Char) : held text ≠ [] := Text.pieces_ne_nil ',' _

theorem held_nil : held [] = [[]] := rfl

theorem held_escaped : held ('\\' :: ',' :: rest) = extend commaMark (held rest) := by
  have hreplace : replaceAll ['\\', ','] commaMark ('\\' :: ',' :: rest)
      = commaMark ++ replaceAll ['\\', ','] commaMark rest :=
    Text.replaceAll_append (List.cons_ne_nil _ _) commaMark rest
  rw [held, hreplace, Text.pieces_append_of_notMem (by decide), held]

theorem held_comma : held (',' :: rest) = [] :: held rest := by
  have hescape : ¬ ['\\', ','] <+: ',' :: rest := fun h =>
    absurd (List.cons_prefix_cons.1 h).1 (by decide)
  rw [held, Text.replaceAll_cons hescape, pieces, if_pos rfl, held]

theorem held_other (hcomma : c ≠ ',') (hescape : ¬ ['\\', ','] <+: c :: rest) :
    held (c :: rest) = extend [c] (held rest) := by
  have hsep : ',' ∉ [c] := fun h => hcomma (List.mem_singleton.1 h).symm
  rw [held, Text.replaceAll_cons hescape, ← List.singleton_append,
    Text.pieces_append_of_notMem hsep, held]

/-- The first piece, which every text has. -/
def firstHeld (text : List Char) : List Char := (held text).headD []

theorem exists_held (text : List Char) : ∃ others, held text = firstHeld text :: others := by
  obtain ⟨piece, others, h⟩ := List.exists_cons_of_ne_nil (held_ne_nil text)
  exact ⟨others, by rw [firstHeld, h, List.headD_cons]⟩

theorem firstHeld_escaped : firstHeld ('\\' :: ',' :: rest) = commaMark ++ firstHeld rest := by
  obtain ⟨others, h⟩ := exists_held rest
  rw [firstHeld, held_escaped, h, extend, List.headD_cons]

theorem firstHeld_comma : firstHeld (',' :: rest) = [] := by
  rw [firstHeld, held_comma, List.headD_cons]

theorem firstHeld_other (hcomma : c ≠ ',') (hescape : ¬ ['\\', ','] <+: c :: rest) :
    firstHeld (c :: rest) = c :: firstHeld rest := by
  obtain ⟨others, h⟩ := exists_held rest
  rw [firstHeld, held_other hcomma hescape, h, extend, List.headD_cons, List.singleton_append]

/-- A word without the characters that marks and commas are made of stands before the end of
    a mark in the first piece exactly when it stands before a completion in the text. -/
theorem prefix_firstHeld_iff {word : List Char}
    (hword : ∀ d ∈ word, d ≠ '\x00' ∧ d ≠ '\\' ∧ d ≠ ',') (text : List Char) :
    word ++ ['\x00'] <+: firstHeld text ↔ ∃ ending ∈ markEndings, word ++ ending <+: text := by
  have hmark : commaMark = '\x00' :: "#DELIMITER#\x00".toList := rfl
  induction word generalizing text with
  | nil =>
    induction text using scan_induction with
    | nil => simp [firstHeld, held_nil, markEndings]
    | escaped rest => simp [firstHeld_escaped, hmark, markEndings]
    | comma rest => simp [firstHeld_comma, markEndings]
    | other c rest hcomma hescape =>
      simp [firstHeld_other hcomma hescape, markEndings, hescape]
  | cons d word ih =>
    obtain ⟨⟨hnul, hslash, hsep⟩, hword⟩ := List.forall_mem_cons.1 hword
    induction text using scan_induction with
    | nil => simp [firstHeld, held_nil]
    | escaped rest => simp [firstHeld_escaped, hmark, hnul, hslash]
    | comma rest => simp [firstHeld_comma, hsep]
    | other c rest hcomma hescape =>
      have hrest := ih hword rest
      simp only [firstHeld_other hcomma hescape, List.cons_append, List.cons_prefix_cons, hrest]
      constructor
      · rintro ⟨rfl, ending, hmem, hprefix⟩
        exact ⟨ending, hmem, rfl, hprefix⟩
      · rintro ⟨ending, hmem, rfl, hprefix⟩
        exact ⟨rfl, ending, hmem, hprefix⟩

/-- The first piece of a text that goes on with another character starts with a mark exactly
    when the text starts one. -/
theorem mark_prefix_iff : commaMark <+: c :: firstHeld rest ↔ StartsMark (c :: rest) := by
  have hword : ∀ d ∈ "#DELIMITER#".toList, d ≠ '\x00' ∧ d ≠ '\\' ∧ d ≠ ',' := by simp
  have hmark : commaMark = '\x00' :: ("#DELIMITER#".toList ++ ['\x00']) := rfl
  have hopening : markOpening = '\x00' :: "#DELIMITER#".toList := rfl
  rw [hmark, List.cons_prefix_cons, prefix_firstHeld_iff hword, StartsMark, hopening]
  simp only [List.cons_append, List.cons_prefix_cons]
  constructor
  · rintro ⟨rfl, ending, hmem, hprefix⟩
    exact ⟨ending, hmem, rfl, hprefix⟩
  · rintro ⟨ending, hmem, rfl, hprefix⟩
    exact ⟨rfl, ending, hmem, hprefix⟩

theorem restored_escaped : restored ('\\' :: ',' :: rest) = extend [','] (restored rest) := by
  obtain ⟨others, h⟩ := exists_held rest
  have hmark : commaMark ≠ [] := by decide
  rw [restored, held_escaped, h, extend, List.map_cons, Text.replaceAll_append hmark, restored,
    h, List.map_cons, extend]

theorem restored_comma : restored (',' :: rest) = [] :: restored rest := by
  rw [restored, held_comma, List.map_cons, restored]
  rfl

theorem restored_other (hcomma : c ≠ ',') (hescape : ¬ ['\\', ','] <+: c :: rest)
    (hmark : ¬ StartsMark (c :: rest)) : restored (c :: rest) = extend [c] (restored rest) := by
  obtain ⟨others, h⟩ := exists_held rest
  have hpiece : ¬ commaMark <+: c :: firstHeld rest := fun hp => hmark (mark_prefix_iff.1 hp)
  rw [restored, held_other hcomma hescape, h, extend, List.map_cons, List.singleton_append,
    Text.replaceAll_cons hpiece, restored, h, List.map_cons, extend, List.singleton_append]

/-- Where a mark is met, the library reads a comma. -/
theorem restored_of_startsMark (hcomma : c ≠ ',') (hescape : ¬ ['\\', ','] <+: c :: rest)
    (hmark : StartsMark (c :: rest)) :
    ∃ piece others, restored (c :: rest) = (',' :: piece) :: others := by
  obtain ⟨others, h⟩ := exists_held rest
  obtain ⟨tail, htail⟩ := mark_prefix_iff.2 hmark
  refine ⟨replaceAll commaMark [','] tail, others.map (replaceAll commaMark [',']), ?_⟩
  have hne : commaMark ≠ [] := by decide
  rw [restored, held_other hcomma hescape, h, extend, List.map_cons, List.singleton_append,
    ← htail, Text.replaceAll_append hne, List.singleton_append]

end Steps

/-! ### Texts that are read as documented -/

/-- Where no mark is met, the library scans. -/
theorem restored_eq_scanFrom {text : List Char} (h : ¬ MeetsMark text) :
    restored text = scanFrom [] text := by
  induction text using scan_induction with
  | nil => rfl
  | escaped rest ih =>
    have hrest : ¬ MeetsMark rest := fun hmeets =>
      h (meetsMark_cons.2 (.inr (meetsMark_cons.2 (.inr hmeets))))
    rw [restored_escaped, ih hrest, scanFrom, List.nil_append, ← scanFrom_eq_extend]
  | comma rest ih =>
    have hrest : ¬ MeetsMark rest := fun hmeets => h (meetsMark_cons.2 (.inr hmeets))
    rw [restored_comma, ih hrest, scanFrom]
  | other c rest hcomma hescape ih =>
    rw [meetsMark_cons, not_or] at h
    rw [restored_other hcomma hescape h.1, ih h.2, scanFrom_other [] hcomma hescape,
      List.nil_append, ← scanFrom_eq_extend]

/-- Trimming hides no difference that stood behind a common start. -/
theorem map_trim_extend_ne {c : Char} {parts others : List (List Char)} (hparts : parts ≠ [])
    (hothers : others ≠ []) (h : parts.map trim ≠ others.map trim) :
    (extend [c] parts).map trim ≠ (extend [c] others).map trim := by
  obtain ⟨first, more, rfl⟩ := List.exists_cons_of_ne_nil hparts
  obtain ⟨second, rest, rfl⟩ := List.exists_cons_of_ne_nil hothers
  intro heq
  obtain ⟨hfirst, hmore⟩ := List.cons.inj heq
  have htrim : trim first = trim second := Text.trim_eq_of_cons hfirst
  exact h (by rw [List.map_cons, List.map_cons, htrim, hmore])

theorem scanFrom_ne_nil (current text : List Char) : scanFrom current text ≠ [] := by
  rw [scanFrom_eq_extend]
  exact Text.extend_ne_nil _ _

theorem restored_ne_nil (text : List Char) : restored text ≠ [] :=
  fun h => held_ne_nil text (List.map_eq_nil_iff.1 h)

/-- Where a mark is met, the library reads something else than the scan, also after
    trimming: a comma in the place of the first mark's first character. -/
theorem restored_ne_scanFrom {text : List Char} (h : MeetsMark text) :
    (restored text).map trim ≠ (scanFrom [] text).map trim := by
  induction text using scan_induction with
  | nil => exact absurd h not_meetsMark_nil
  | escaped rest ih =>
    have hrest : MeetsMark rest := by
      rcases meetsMark_cons.1 h with hstarts | hmeets
      · cases eq_of_startsMark hstarts
      · rcases meetsMark_cons.1 hmeets with hstarts | hrest
        · cases eq_of_startsMark hstarts
        · exact hrest
    rw [restored_escaped, scanFrom, List.nil_append, scanFrom_eq_extend]
    exact map_trim_extend_ne (restored_ne_nil rest) (scanFrom_ne_nil [] rest) (ih hrest)
  | comma rest ih =>
    have hrest : MeetsMark rest := by
      rcases meetsMark_cons.1 h with hstarts | hrest
      · cases eq_of_startsMark hstarts
      · exact hrest
    rw [restored_comma, scanFrom]
    intro heq
    exact ih hrest (List.cons.inj heq).2
  | other c rest hcomma hescape ih =>
    rw [scanFrom_other [] hcomma hescape, List.nil_append, scanFrom_eq_extend]
    by_cases hstarts : StartsMark (c :: rest)
    · obtain ⟨piece, others, hrestored⟩ := restored_of_startsMark hcomma hescape hstarts
      obtain ⟨first, more, hscan⟩ := List.exists_cons_of_ne_nil (scanFrom_ne_nil [] rest)
      cases eq_of_startsMark hstarts
      rw [hrestored, hscan]
      intro heq
      have hfirst : trim (',' :: piece) = trim ('\x00' :: first) := (List.cons.inj heq).1
      rw [Text.trim_cons (by decide), Text.trim_cons (by decide)] at hfirst
      exact absurd (List.cons.inj hfirst).1 (by decide)
    · have hrest : MeetsMark rest := (meetsMark_cons.1 h).resolve_left hstarts
      rw [restored_other hcomma hescape hstarts]
      exact map_trim_extend_ne (restored_ne_nil rest) (scanFrom_ne_nil [] rest) (ih hrest)

theorem readParams_eq (text : List Char) :
    readParams text
      = if text = [] then [] else (restored text).map fun param => String.ofList (trim param) := by
  rw [readParams, restored, List.map_map]
  rfl

theorem readParams_eq_scan_iff {text : List Char} (hne : text ≠ []) :
    readParams text = scan text ↔ ¬ MeetsMark text := by
  rw [readParams_eq, if_neg hne, scan]
  constructor
  · intro heq hmeets
    refine restored_ne_scanFrom hmeets ?_
    have hlists := congrArg (List.map String.toList) heq
    simpa only [List.map_map, Function.comp_def, String.toList_ofList] using hlists
  · intro hmeets
    rw [restored_eq_scanFrom hmeets]

/-! ### What a token says -/

theorem says_of_notMem_iff {text : String} (h : ':' ∉ text.toList) {token : Token} :
    Says text token ↔ token = ⟨text, []⟩ := by
  constructor
  · intro hread
    cases hread with
    | bare plain => rfl
    | closed plain => exact absurd (by simp) h
    | given plain written => exact absurd (by simp) h
  · rintro rfl
    exact .bare h

theorem cut?_toList {operator : String} (h : ':' ∉ operator.toList) (params : String) :
    cut? ':' (operator ++ ":" ++ params).toList = some (operator.toList, params.toList) := by
  rw [String.toList_append, String.toList_append, List.append_assoc]
  exact Text.cut?_append h

/-- The first colon is where a token is cut, so it says one thing only. -/
theorem says_of_cut_iff {operator params : String} (h : ':' ∉ operator.toList) {token : Token} :
    Says (operator ++ ":" ++ params) token ↔
      token = ⟨operator, if params = "" then [] else scan params.toList⟩ := by
  constructor
  · intro hread
    have hparts := cut?_toList h params
    generalize operator ++ ":" ++ params = text at hread hparts
    cases hread with
    | bare plain =>
      rw [Text.cut?_eq_none_iff.2 plain] at hparts
      cases hparts
    | closed plain =>
      have hother := cut?_toList plain ""
      rw [String.append_empty, hparts] at hother
      simp only [Option.some.injEq, Prod.mk.injEq, String.toList_inj] at hother
      obtain ⟨rfl, rfl⟩ := hother
      rfl
    | @given _ back plain written =>
      have hother := cut?_toList plain back
      rw [hparts] at hother
      simp only [Option.some.injEq, Prod.mk.injEq, String.toList_inj] at hother
      obtain ⟨rfl, rfl⟩ := hother
      rw [if_neg written]
  · rintro rfl
    split
    · rename_i hempty
      rw [hempty, String.append_empty]
      exact .closed h
    · rename_i hwritten
      exact .given h hwritten

theorem ofText_of_cut {operator params : String} (h : ':' ∉ operator.toList) :
    ofText (operator ++ ":" ++ params) = ⟨operator, readParams params.toList⟩ := by
  rw [ofText, cut?_toList h params]
  simp only [String.ofList_toList]

theorem ofText_of_notMem {text : String} (h : ':' ∉ text.toList) : ofText text = ⟨text, []⟩ := by
  rw [ofText, Text.cut?_eq_none_iff.2 h]

/-- A text has no colon, or it is cut at the first one. -/
theorem exists_cut (text : String) :
    ':' ∉ text.toList ∨ ∃ operator params : String,
      text = operator ++ ":" ++ params ∧ ':' ∉ operator.toList := by
  cases hcut : cut? ':' text.toList with
  | none => exact .inl (Text.cut?_eq_none_iff.1 hcut)
  | some parts =>
    obtain ⟨operator, params⟩ := parts
    refine .inr ⟨String.ofList operator, String.ofList params, ?_, ?_⟩
    · rw [← String.toList_inj, Text.eq_append_of_cut? hcut]
      simp
    · rw [String.toList_ofList]
      exact Text.notMem_of_cut? hcut

/-- Behind the first colon of the token a mark is met. -/
def Marked (text : String) : Prop :=
  ∃ operator params : String, text = operator ++ ":" ++ params ∧ ':' ∉ operator.toList ∧
    MeetsMark params.toList

theorem marked_of_cut_iff {operator params : String} (h : ':' ∉ operator.toList) :
    Marked (operator ++ ":" ++ params) ↔ MeetsMark params.toList := by
  constructor
  · rintro ⟨front, back, htext, hfront, hmeets⟩
    have hparts := cut?_toList h params
    rw [htext, cut?_toList hfront back] at hparts
    simp only [Option.some.injEq, Prod.mk.injEq] at hparts
    rwa [← hparts.2]
  · intro hmeets
    exact ⟨operator, params, rfl, h, hmeets⟩

/-- **A token is read as documented unless a mark is met in it.**  This holds of every text, and
    a text in which a mark is met is always read in another way. -/
theorem says_ofText_iff (text : String) : Says text (ofText text) ↔ ¬ Marked text := by
  rcases exists_cut text with hplain | ⟨operator, params, rfl, hoperator⟩
  · have hmarked : ¬ Marked text := by
      rintro ⟨operator, params, rfl, -, -⟩
      exact hplain (by simp)
    rw [says_of_notMem_iff hplain, ofText_of_notMem hplain]
    exact iff_of_true rfl hmarked
  · rw [says_of_cut_iff hoperator, ofText_of_cut hoperator, marked_of_cut_iff hoperator]
    simp only [Token.mk.injEq, true_and]
    split
    · rename_i hempty
      rw [hempty]
      exact iff_of_true rfl not_meetsMark_nil
    · rename_i hwritten
      have hne : params.toList ≠ [] := fun h => hwritten (String.toList_eq_nil_iff.1 h)
      exact readParams_eq_scan_iff hne

/-- A text that holds the mark and no comma is read with a comma. -/
theorem marked_token_misread :
    let text := "eq:a\x00#DELIMITER#\x00b"
    Says text ⟨"eq", ["a\x00#DELIMITER#\x00b"]⟩ ∧ ofText text = ⟨"eq", ["a,b"]⟩ ∧
      ¬ Says text (ofText text) := by
  intro text
  have heq : ':' ∉ "eq".toList := by decide
  have hread : ∀ token, Says text token ↔ token = ⟨"eq", ["a\x00#DELIMITER#\x00b"]⟩ := by
    intro token
    exact @says_of_cut_iff "eq" "a\x00#DELIMITER#\x00b" heq token
  refine ⟨(hread _).2 rfl, by decide, ?_⟩
  rw [hread]
  decide

/-- An escaped comma can complete the mark, and then the order of the characters changes. -/
example : ofText "eq:\x00#DELIMITER#\\," = ⟨"eq", [",#DELIMITER#\x00"]⟩ := by decide

end Listing.Token
