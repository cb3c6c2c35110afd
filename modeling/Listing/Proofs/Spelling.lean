/-
  Listing/Proofs/Spelling.lean
  ============================
  **Every list of parameters can be spelled.**

  A token is written with the commas of its parameters escaped (`write`).  A backslash
  has no escape, so a parameter that ends in one gets a space behind it: the comma that
  follows would be escaped otherwise, and the space is trimmed away again.  The scan
  takes a written parameter in as a whole, whatever follows it (`scanFrom_writeParam`),
  and so the token that was written is the token that is read (`ofText_write`).
-/
import Listing.Proofs.Scanning

namespace Listing.Token

open Text (isBlank trim)

/-! ### Writing a token -/

def escapeCommas (param : List Char) : List Char :=
  param.flatMap fun c => if c = ',' then ['\\', ','] else [c]

/-- What keeps a backslash at the end of a parameter from the comma behind it. -/
def spacer (param : List Char) : List Char := if param.getLast? = some '\\' then [' '] else []

def writeParam (param : String) : List Char := escapeCommas param.toList ++ spacer param.toList

def writeParams (params : List String) : List Char := [','].intercalate (params.map writeParam)

def write (operator : String) (params : List String) : String :=
  operator ++ ":" ++ String.ofList (writeParams params)

theorem escapeCommas_cons (c : Char) (rest : List Char) :
    escapeCommas (c :: rest) = (if c = ',' then ['\\', ','] else [c]) ++ escapeCommas rest :=
  List.flatMap_cons

theorem writeParams_singleton (param : String) : writeParams [param] = writeParam param :=
  List.intercalate_singleton

theorem writeParams_cons_cons (param next : String) (others : List String) :
    writeParams (param :: next :: others)
      = writeParam param ++ ',' :: writeParams (next :: others) := by
  simp only [writeParams, List.map_cons, List.intercalate_cons_cons, List.append_assoc,
    List.singleton_append]

/-! ### What is written is scanned -/

/-- A text with its commas escaped never starts with a comma. -/
theorem head?_escapeCommas_append {text tail : List Char}
    (h : (escapeCommas text ++ tail).head? = some ',') : text = [] ∧ tail.head? = some ',' := by
  cases text with
  | nil => exact ⟨rfl, h⟩
  | cons c rest =>
    rw [escapeCommas_cons] at h
    by_cases hcomma : c = ','
    · rw [if_pos hcomma] at h
      cases h
    · rw [if_neg hcomma] at h
      exact absurd (Option.some.inj h) hcomma

/-- The scan takes in a text with its commas escaped, unless a backslash at its end stands
    before a comma. -/
theorem scanFrom_escapeCommas (current : List Char) {text tail : List Char}
    (h : text.getLast? = some '\\' → tail.head? ≠ some ',') :
    scanFrom current (escapeCommas text ++ tail) = scanFrom (current ++ text) tail := by
  induction text generalizing current with
  | nil => rw [List.append_nil]; rfl
  | cons c rest ih =>
    have hlast : rest.getLast? = some '\\' → tail.head? ≠ some ',' := by
      intro hrest
      exact h (by rw [List.getLast?_cons, hrest, Option.getD_some])
    rw [escapeCommas_cons, List.append_assoc]
    by_cases hcomma : c = ','
    · rw [if_pos hcomma, hcomma, List.cons_append, List.cons_append, List.nil_append, scanFrom,
        ih _ hlast, List.append_assoc, List.singleton_append]
    · have hescape : ¬ ['\\', ','] <+: c :: (escapeCommas rest ++ tail) := by
        intro hprefix
        obtain ⟨rfl, hnext⟩ := List.cons_prefix_cons.1 hprefix
        obtain ⟨rfl, htail⟩ := head?_escapeCommas_append
          (List.singleton_prefix_iff_head?_eq_some.1 hnext)
        exact h rfl htail
      rw [if_neg hcomma, List.singleton_append, scanFrom_other current hcomma hescape,
        ih _ hlast, List.append_assoc, List.singleton_append]

/-- The scan takes in a written parameter, whatever follows it. -/
theorem scanFrom_writeParam (param : String) (tail : List Char) :
    scanFrom [] (writeParam param ++ tail)
      = scanFrom (param.toList ++ spacer param.toList) tail := by
  rw [writeParam, List.append_assoc, spacer]
  by_cases hlast : param.toList.getLast? = some '\\'
  · rw [if_pos hlast, scanFrom_escapeCommas [] (fun _ => by simp), List.nil_append,
      List.singleton_append, scanFrom_other _ (by decide) (by simp)]
  · rw [if_neg hlast, scanFrom_escapeCommas [] (fun h => absurd h hlast), List.append_nil,
      List.nil_append, List.nil_append]

theorem scanFrom_writeParams {params : List String} (hne : params ≠ []) :
    scanFrom [] (writeParams params)
      = params.map fun param => param.toList ++ spacer param.toList := by
  induction params with
  | nil => exact absurd rfl hne
  | cons param rest ih =>
    cases rest with
    | nil =>
      have hwritten := scanFrom_writeParam param []
      rw [List.append_nil] at hwritten
      rw [writeParams_singleton, hwritten]
      rfl
    | cons next others =>
      rw [writeParams_cons_cons, scanFrom_writeParam, scanFrom, ih (List.cons_ne_nil next others)]
      rfl

theorem trim_append_spacer {param : List Char} (h : trim param = param) :
    trim (param ++ spacer param) = param := by
  have hblank : ∀ c ∈ spacer param, isBlank c = true := by
    intro c hc
    unfold spacer at hc
    split at hc
    · rw [List.mem_singleton.1 hc]
      decide
    · cases hc
  rw [Text.trim_append_blank _ hblank, h]

theorem scan_writeParams {params : List String} (hne : params ≠ [])
    (htrim : ∀ param ∈ params, trim param.toList = param.toList) :
    scan (writeParams params) = params := by
  rw [scan, scanFrom_writeParams hne, List.map_map]
  conv_rhs => rw [← List.map_id params]
  refine List.map_congr_left ?_
  intro param hmem
  rw [Function.comp_apply, trim_append_spacer (htrim param hmem), String.ofList_toList, id]

/-! ### What is written is read -/

theorem nul_mem_of_meetsMark {text : List Char} (h : MeetsMark text) : '\x00' ∈ text := by
  obtain ⟨ending, -, hinfix⟩ := h
  exact hinfix.subset (List.mem_append_left ending List.mem_cons_self)

theorem nul_notMem_writeParam {param : String} (h : '\x00' ∉ param.toList) :
    '\x00' ∉ writeParam param := by
  intro hmem
  rcases List.mem_append.1 hmem with hmem | hmem
  · obtain ⟨c, hc, hmem⟩ := List.mem_flatMap.1 hmem
    split at hmem
    · exact absurd hmem (by decide)
    · rw [List.mem_singleton.1 hmem] at h
      exact h hc
  · unfold spacer at hmem
    split at hmem
    · exact absurd hmem (by decide)
    · cases hmem

theorem not_meetsMark_writeParams {params : List String}
    (h : ∀ param ∈ params, '\x00' ∉ param.toList) : ¬ MeetsMark (writeParams params) := by
  intro hmeets
  have hmem := nul_mem_of_meetsMark hmeets
  clear hmeets
  induction params with
  | nil => cases hmem
  | cons param rest ih =>
    obtain ⟨hparam, hrest⟩ := List.forall_mem_cons.1 h
    have hwritten := nul_notMem_writeParam hparam
    cases rest with
    | nil =>
      rw [writeParams_singleton] at hmem
      exact hwritten hmem
    | cons next others =>
      rw [writeParams_cons_cons] at hmem
      rcases List.mem_append.1 hmem with hmem | hmem
      · exact hwritten hmem
      · exact ih hrest ((List.mem_cons.1 hmem).resolve_left (by decide))

/-- Only the empty parameter alone is written as nothing. -/
theorem writeParams_ne_nil {params : List String} (hne : params ≠ []) (hempty : params ≠ [""]) :
    writeParams params ≠ [] := by
  intro hnil
  have hscan := scanFrom_writeParams hne
  rw [hnil] at hscan
  obtain ⟨param, rest, rfl⟩ := List.exists_cons_of_ne_nil hne
  obtain ⟨hparam, hrest⟩ := List.cons.inj hscan
  obtain ⟨hnone, -⟩ := List.append_eq_nil_iff.1 hparam.symm
  refine hempty ?_
  rw [String.toList_eq_nil_iff.1 hnone, List.map_eq_nil_iff.1 hrest.symm]

/-- **Every list of parameters can be written as a token.**  Whatever stands in the parameters
    besides U+0000, the token that is written for them is read as the operator and exactly these
    parameters.  The empty parameter alone cannot be written: nothing behind the colon means no
    parameters. -/
theorem ofText_write {operator : String} {params : List String} (hoperator : ':' ∉ operator.toList)
    (hne : params ≠ []) (hempty : params ≠ [""])
    (htrim : ∀ param ∈ params, trim param.toList = param.toList)
    (hnul : ∀ param ∈ params, '\x00' ∉ param.toList) :
    ofText (write operator params) = ⟨operator, params⟩ := by
  have hmark := not_meetsMark_writeParams hnul
  rw [write, ofText_of_cut hoperator, String.toList_ofList,
    (readParams_eq_scan_iff (writeParams_ne_nil hne hempty)).2 hmark, scan_writeParams hne htrim]

/-- Backslashes before an escaped comma, before a comma that separates, and at the end. -/
theorem backslashes_spelled :
    write "not-in" ["a\\", "b\\,c\\\\", "", ":,"] = "not-in:a\\ ,b\\\\,c\\\\ ,,:\\," ∧
      ofText (write "not-in" ["a\\", "b\\,c\\\\", "", ":,"])
        = ⟨"not-in", ["a\\", "b\\,c\\\\", "", ":,"]⟩ :=
  ⟨by decide, ofText_write (by decide) (by decide) (by decide) (by decide) (by decide)⟩

end Listing.Token
