/-
  Listing/Proofs/KeyForms.lean
  ============================
  **The forms of bracketed keys.**

  Two forms are documented: `name[entry]` sets the values of an entry, and
  `name[entry][...]` appends to them (`Documented`).  More than these is read, because
  any text at all behind the closing bracket makes a key append (`Stray`).  A key is
  refused when it has no entry, and for no other reason (`bracket?_eq_none_iff_forms`).

  Hence only documented forms are accepted exactly when no key is stray, or when some
  other key is refused anyway (`onlyDocumented_iff`).  What stands behind an entry counts
  as `[]`: a request in which it is written so has no stray keys, and it is the same
  query (`ofRequest_tidied`).
-/
import Listing.Proofs.Entries

namespace Listing

open Text (cut?)

variable {σ ι : Type}

namespace Request

variable {name key entry tail : String} {request : Request}

/-! ### Documented and stray keys -/

/-- A key is split behind its name: the entry stands in brackets, up to the first closing one,
    and the tail follows. -/
structure Splits (name key entry tail : String) : Prop where
  key_eq : key = name ++ "[" ++ entry ++ "]" ++ tail
  closed : ']' ∉ entry.toList
  nonempty : entry ≠ ""

/-- A tail of a documented form: nothing, or a text from an opening to a closing bracket. -/
def IsBracketed (tail : String) : Prop :=
  tail = "" ∨ tail.toList.head? = some '[' ∧ tail.toList.getLast? = some ']'

instance : DecidablePred IsBracketed := fun _ => inferInstanceAs (Decidable (_ ∨ _))

/-- The key has the form `name[entry]` or `name[entry][...]`. -/
def Documented (name key : String) : Prop :=
  ∃ entry tail, Splits name key entry tail ∧ IsBracketed tail

/-- The key has an entry, and behind it a text that is not in brackets. -/
def Stray (name key : String) : Prop :=
  ∃ entry tail, Splits name key entry tail ∧ ¬ IsBracketed tail

theorem Splits.unique {other rest : String} (h : Splits name key entry tail)
    (hother : Splits name key other rest) : entry = other ∧ tail = rest := by
  have htext : entry.toList ++ ']' :: tail.toList = other.toList ++ ']' :: rest.toList := by
    have hkey := congrArg String.toList (h.key_eq.symm.trans hother.key_eq)
    simpa using hkey
  -- both are what the first closing bracket cuts the text into
  have hcut : cut? ']' (entry.toList ++ ']' :: tail.toList) = some (entry.toList, tail.toList) :=
    Text.cut?_append h.closed
  rw [htext, Text.cut?_append hother.closed] at hcut
  simp only [Option.some.injEq, Prod.mk.injEq, String.toList_inj] at hcut
  exact ⟨hcut.1.symm, hcut.2.symm⟩

theorem not_stray_of_documented (h : Documented name key) : ¬ Stray name key := by
  obtain ⟨entry, tail, hsplits, hbracketed⟩ := h
  rintro ⟨other, rest, hother, hstray⟩
  obtain ⟨-, rfl⟩ := hsplits.unique hother
  exact hstray hbracketed

theorem exists_splits_iff :
    (∃ entry tail, Splits name key entry tail) ↔ Documented name key ∨ Stray name key := by
  constructor
  · rintro ⟨entry, tail, hsplits⟩
    by_cases hbracketed : IsBracketed tail
    · exact .inl ⟨entry, tail, hsplits, hbracketed⟩
    · exact .inr ⟨entry, tail, hsplits, hbracketed⟩
  · rintro (⟨entry, tail, hsplits, -⟩ | ⟨entry, tail, hsplits, -⟩)
    · exact ⟨entry, tail, hsplits⟩
    · exact ⟨entry, tail, hsplits⟩

/-- What is read of a key is its entry, and whether there is a tail. -/
theorem bracket?_eq_some_iff_splits {appends : Bool} (h : baseName key = name) :
    bracket? key = some ⟨entry, appends⟩ ↔
      ∃ tail, Splits name key entry tail ∧ (appends = true ↔ tail ≠ "") := by
  rw [bracket?_eq_some_iff h]
  constructor
  · rintro ⟨⟨tail, hkey, happends⟩, hclosed, hne⟩
    exact ⟨tail, ⟨hkey, hclosed, hne⟩, happends⟩
  · rintro ⟨tail, ⟨hkey, hclosed, hne⟩, happends⟩
    exact ⟨⟨tail, hkey, happends⟩, hclosed, hne⟩

theorem bracket?_eq_none_iff_forms (h : baseName key = name) :
    bracket? key = none ↔ ¬ Documented name key ∧ ¬ Stray name key := by
  rw [← not_or, ← exists_splits_iff, Option.eq_none_iff_forall_ne_some]
  constructor
  · rintro hnone ⟨entry, tail, hsplits⟩
    refine hnone ⟨entry, decide (tail ≠ "")⟩ ((bracket?_eq_some_iff_splits h).2 ⟨tail, hsplits, ?_⟩)
    exact decide_eq_true_iff
  · rintro hbroken ⟨entry, appends⟩ hsome
    obtain ⟨tail, hsplits, -⟩ := (bracket?_eq_some_iff_splits h).1 hsome
    exact hbroken ⟨entry, tail, hsplits⟩

/-- A stray key appends, as the documented keys with a tail do. -/
theorem Stray.appends (hstray : Stray name key) (h : baseName key = name) :
    ∃ entry, bracket? key = some ⟨entry, true⟩ := by
  obtain ⟨entry, tail, hsplits, hbracketed⟩ := hstray
  refine ⟨entry, (bracket?_eq_some_iff_splits h).2 ⟨tail, hsplits, iff_of_true rfl ?_⟩⟩
  intro hempty
  exact hbracketed (.inl hempty)

/-! ### Requests with documented keys only -/

theorem map_eq_malformed_iff_forms :
    request.map name = .malformed ↔ ∃ pair ∈ request.pairs, baseName pair.1 = name ∧
      ¬ Documented name pair.1 ∧ ¬ Stray name pair.1 := by
  rw [map_eq_malformed_iff, enterAll?_eq_none_iff]
  simp only [pairsOf, List.mem_filter, beq_iff_eq, and_assoc]
  refine exists_congr fun pair => and_congr_right fun _ => and_congr_right fun hname => ?_
  exact bracket?_eq_none_iff_forms hname

/-- A name is read only if all of its keys have a documented form. -/
structure OnlyDocumented (request : Request) (name : String) : Prop where
  documented : request.map name ≠ .malformed →
    ∀ pair ∈ request.pairs, baseName pair.1 = name → Documented name pair.1
  malformed : ∀ pair ∈ request.pairs, baseName pair.1 = name → ¬ Documented name pair.1 →
    request.map name = .malformed

theorem onlyDocumented_iff :
    request.OnlyDocumented name ↔ request.map name = .malformed ∨
      ∀ pair ∈ request.pairs, baseName pair.1 = name → ¬ Stray name pair.1 := by
  constructor
  · intro h
    by_cases hmalformed : request.map name = .malformed
    · exact .inl hmalformed
    · refine .inr ?_
      intro pair hpair hname
      exact not_stray_of_documented (h.documented hmalformed pair hpair hname)
  · rintro (hmalformed | hfree)
    · exact ⟨fun hread => absurd hmalformed hread, fun _ _ _ _ => hmalformed⟩
    · have hbroken : ∀ pair ∈ request.pairs, baseName pair.1 = name →
          ¬ Documented name pair.1 → request.map name = .malformed := by
        intro pair hpair hname hother
        exact map_eq_malformed_iff_forms.2
          ⟨pair, hpair, hname, hother, hfree pair hpair hname⟩
      refine ⟨?_, hbroken⟩
      intro hread pair hpair hname
      by_contra hother
      exact hread (hbroken pair hpair hname hother)

/-! ### Tails written as brackets -/

/-- The key with `[]` for whatever stands behind its entry. -/
def tidyKey (key : String) : String :=
  match bracket? key with
  | some ⟨entry, true⟩ => baseName key ++ "[" ++ entry ++ "]" ++ "[]"
  | _ => key

def tidyPair (pair : String × String) : String × String := (tidyKey pair.1, pair.2)

/-- The same request with tidied keys. -/
def tidied (request : Request) : Request :=
  { request with pairs := request.pairs.map tidyPair }

theorem bracket_notMem_baseName (key : String) : '[' ∉ (baseName key).toList := by
  unfold baseName
  split
  · rename_i hcut
    rw [String.toList_ofList]
    exact Text.notMem_of_cut? hcut
  · rename_i hcut
    exact Text.cut?_eq_none_iff.1 hcut

theorem Splits.baseName_eq (h : Splits name key entry tail) (hname : '[' ∉ name.toList) :
    baseName key = name := by
  have hkey : key.toList = name.toList ++ '[' :: (entry.toList ++ ']' :: tail.toList) := by
    rw [h.key_eq]
    simp
  rw [baseName, hkey, Text.cut?_append hname]
  exact String.ofList_toList

theorem Splits.mem_key (h : Splits name key entry tail) : '[' ∈ key.toList := by
  rw [h.key_eq]
  simp

/-- Tidying leaves a key as it is, or splits it into the same entry and `[]`. -/
theorem tidyKey_cases (key : String) :
    (tidyKey key = key ∧ ∀ entry, bracket? key ≠ some ⟨entry, true⟩) ∨
      ∃ entry, bracket? key = some ⟨entry, true⟩ ∧
        Splits (baseName key) (tidyKey key) entry "[]" := by
  unfold tidyKey
  split
  · rename_i entry hbracket
    obtain ⟨tail, hsplits, -⟩ := (bracket?_eq_some_iff_splits rfl).1 hbracket
    exact .inr ⟨entry, hbracket, rfl, hsplits.closed, hsplits.nonempty⟩
  · rename_i hnone
    exact .inl ⟨rfl, hnone⟩

theorem baseName_tidyKey (key : String) : baseName (tidyKey key) = baseName key := by
  rcases tidyKey_cases key with ⟨hsame, -⟩ | ⟨entry, -, hsplits⟩
  · rw [hsame]
  · exact hsplits.baseName_eq (bracket_notMem_baseName key)

theorem bracket?_tidyKey (key : String) : bracket? (tidyKey key) = bracket? key := by
  rcases tidyKey_cases key with ⟨hsame, -⟩ | ⟨entry, hbracket, hsplits⟩
  · rw [hsame]
  · rw [hbracket, bracket?_eq_some_iff_splits (baseName_tidyKey key)]
    exact ⟨"[]", hsplits, by decide⟩

theorem not_stray_tidyKey (key : String) : ¬ Stray (baseName key) (tidyKey key) := by
  rcases tidyKey_cases key with ⟨hsame, hnone⟩ | ⟨entry, -, hsplits⟩
  · rw [hsame]
    intro hstray
    obtain ⟨entry, hbracket⟩ := hstray.appends rfl
    exact hnone entry hbracket
  · exact not_stray_of_documented ⟨entry, "[]", hsplits, by decide⟩

/-- Tidying makes or removes no key without brackets. -/
theorem eq_tidyKey_iff (hplain : '[' ∉ name.toList) : name = tidyKey key ↔ name = key := by
  rcases tidyKey_cases key with ⟨hsame, -⟩ | ⟨entry, hbracket, hsplits⟩
  · rw [hsame]
  · -- the key has brackets before it is tidied and after
    obtain ⟨tail, hkey, -⟩ := (bracket?_eq_some_iff_splits rfl).1 hbracket
    constructor
    · rintro rfl
      exact absurd hsplits.mem_key hplain
    · rintro rfl
      exact absurd hkey.mem_key hplain

/-! ### Tidied requests -/

theorem enterAll?_map_tidyPair (table : Table) (pairs : List (String × String)) :
    table.enterAll? (pairs.map tidyPair) = table.enterAll? pairs := by
  induction pairs generalizing table with
  | nil => rfl
  | cons pair rest ih => simp only [List.map_cons, tidyPair, Table.enterAll?, bracket?_tidyKey, ih]

theorem lookup_map_tidyPair (hplain : '[' ∉ name.toList) (pairs : List (String × String)) :
    (pairs.map tidyPair).lookup name = pairs.lookup name := by
  induction pairs with
  | nil => rfl
  | cons pair rest ih =>
    obtain ⟨key, value⟩ := pair
    have hkey : (name == tidyKey key) = (name == key) := by
      rw [Bool.eq_iff_iff, beq_iff_eq, beq_iff_eq, eq_tidyKey_iff hplain]
    simp only [List.map_cons, tidyPair, List.lookup_cons, hkey, ih]

theorem pairsOf_tidied (request : Request) (name : String) :
    request.tidied.pairsOf name = (request.pairsOf name).map tidyPair := by
  simp only [pairsOf, tidied, List.filter_map, Function.comp_def, tidyPair, baseName_tidyKey]

theorem get?_tidied (hplain : '[' ∉ name.toList) (request : Request) :
    request.tidied.get? name = request.get? name := by
  rw [get?, tidied, ← List.map_reverse, lookup_map_tidyPair hplain, get?]

theorem has_tidied (request : Request) (name : String) :
    request.tidied.has name = request.has name := by
  simp only [has, tidied, List.any_map, Function.comp_def, tidyPair, baseName_tidyKey]

/-- Whatever stands behind the entries, the same values are read. -/
theorem map_tidied (request : Request) (name : String) :
    request.tidied.map name = request.map name := by
  unfold map
  rw [pairsOf_tidied]
  cases request.pairsOf name with
  | nil => rfl
  | cons pair rest =>
    have henter := enterAll?_map_tidyPair [] (pair :: rest)
    rw [List.map_cons] at henter
    simp only [List.map_cons, henter]

theorem not_stray_of_mem_tidied {pair : String × String} (h : pair ∈ request.tidied.pairs) :
    ¬ Stray (baseName pair.1) pair.1 := by
  obtain ⟨given, -, rfl⟩ := List.mem_map.1 h
  rw [tidyPair, baseName_tidyKey]
  exact not_stray_tidyKey given.1

/-- **More keys are read than documented.**  A name is read from keys of its documented forms
    only, any other of its keys making it malformed, exactly when no key of the name is stray or
    another one has no entry at all.  Text behind an entry that is not in brackets counts as
    `[]`: with all tails written so, no key is stray and the name is read as before. -/
theorem only_documented_iff (request : Request) (name : String) :
    (request.OnlyDocumented name ↔
      (∃ pair ∈ request.pairs, baseName pair.1 = name ∧
        ¬ Documented name pair.1 ∧ ¬ Stray name pair.1) ∨
      ∀ pair ∈ request.pairs, baseName pair.1 = name → ¬ Stray name pair.1) ∧
    request.tidied.map name = request.map name ∧
    ∀ pair ∈ request.tidied.pairs, ¬ Stray (baseName pair.1) pair.1 := by
  refine ⟨?_, map_tidied request name, fun _ hpair => not_stray_of_mem_tidied hpair⟩
  rw [onlyDocumented_iff, map_eq_malformed_iff_forms]

/-- A letter behind the brackets turns a new value for an entry into one more value. -/
theorem stray_letter_appends :
    let request : Request := ⟨"/parcels", [("filters[size]", "gt:1"), ("filters[size]x", "lt:9")]⟩
    request.map "filters" = .table [("size", ["gt:1", "lt:9"])] ∧
      baseName "filters[size]x" = "filters" ∧ Stray "filters" "filters[size]x" ∧
      ¬ Documented "filters" "filters[size]x" ∧ ¬ request.OnlyDocumented "filters" := by
  intro request
  have hname : baseName "filters[size]x" = "filters" := by decide
  have hstray : Stray "filters" "filters[size]x" :=
    ⟨"size", "x", ⟨by decide, by decide, by decide⟩, by decide⟩
  have hother : ¬ Documented "filters" "filters[size]x" :=
    fun hdocumented => not_stray_of_documented hdocumented hstray
  have hmap : request.map "filters" = .table [("size", ["gt:1", "lt:9"])] := by decide +kernel
  refine ⟨hmap, hname, hstray, hother, ?_⟩
  intro honly
  have hread : request.map "filters" ≠ .malformed := by
    rw [hmap]
    exact Bracketed.noConfusion
  exact hother (honly.documented hread ("filters[size]x", "lt:9") (by simp [request]) hname)

end Request

/-! ### The query of a tidied request -/

/-- A query is made of plain values, of the names that are present, and of tables. -/
theorem Query.ofRequest_congr {config : Config σ ι} {request other : Request}
    (hget : ∀ parameter : Parameter, other.get? parameter.key = request.get? parameter.key)
    (hhas : ∀ name, other.has name = request.has name)
    (hmap : ∀ name, other.map name = request.map name) :
    ofRequest config other = ofRequest config request := by
  have hshapes : Parameter.shapeViolations other = Parameter.shapeViolations request := by
    funext parameter
    simp only [Parameter.shapeViolations, hget, hhas]
  have hvalues : Parameter.valueViolations config.validator config.pageSizes other
      = Parameter.valueViolations config.validator config.pageSizes request := by
    funext parameter
    simp only [Parameter.valueViolations, hget]
  have hviolations : config.violations other = config.violations request := by
    simp only [Config.violations, Config.filterKeyViolations, Config.sortKeyViolations, hshapes,
      hvalues, hmap]
  have hentries : ∀ key, entries other key = entries request key := by
    intro key
    simp only [entries, hmap]
  have hread : read config other = read config request := by
    simp only [read, windowOf, detailOf, filtersOf, sortOf, requestedSort, Parameter.number?, hget,
      hentries]
  simp only [ofRequest, hviolations, hread]

/-- **Stray text does not matter to any listing.**  A request is the same query, or is rejected
    for the same violations, when what stands behind its entries is written as `[]`. -/
theorem Query.ofRequest_tidied (config : Config σ ι) (request : Request) :
    ofRequest config request.tidied = ofRequest config request := by
  refine ofRequest_congr ?_ request.has_tidied request.map_tidied
  intro parameter
  exact Request.get?_tidied (by cases parameter <;> decide) request

end Listing
