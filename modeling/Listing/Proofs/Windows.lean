/-
  Listing/Proofs/Windows.lean
  ===========================
  **The windows of valid requests.**

  A page parameter is checked as a signed number, with bounds that are compared after
  rounding, and used as an unsigned one.  The two readings agree on every accepted
  value but a zero with a minus sign, which has no unsigned reading.  So a window is the
  one that was asked for unless such an offset hides behind a page number
  (`honours_iff_not_overlooks`), and it is within the page sizes of the listing exactly
  as long as the largest one is told from the next number after rounding
  (`windows_within_iff_sharp`).
-/
import Listing.Proofs.Lifecycle
import Listing.Proofs.Magnitudes
import Listing.Proofs.Serving

namespace Listing

open Number (Binary64)

variable {σ ι : Type}

/-! ### Signed and unsigned readings -/

namespace Text

/-- No unsigned number has a minus sign, not even zero. -/
theorem unsigned?_minus (cs : List Char) : unsigned? ('-' :: cs) = none := by
  have hdrop : dropPlus ('-' :: cs) = '-' :: cs := rfl
  have hnone : natural? ('-' :: cs) = none := by simp [natural?]
  rw [unsigned?, hdrop, hnone, Option.filter_none]

theorem nonpos_of_integer?_minus {cs : List Char} {k : Int} (h : integer? ('-' :: cs) = some k) :
    k ≤ 0 := by
  rw [integer?_minus] at h
  obtain ⟨n, -, rfl⟩ := Option.map_eq_some_iff.1 h
  omega

/-- Without a minus sign the two readings agree. -/
theorem unsigned?_of_integer? {cs : List Char} {k : Int} (hplain : ∀ rest, cs ≠ '-' :: rest)
    (h : integer? cs = some k) (hfits : k ≤ maxUnsigned) : unsigned? cs = some k.toNat := by
  rw [integer?_of_ne hplain] at h
  obtain ⟨n, hn, rfl⟩ := Option.map_eq_some_iff.1 h
  rw [unsigned?, hn]
  exact Option.filter_eq_some_iff.2 ⟨rfl, decide_eq_true (Int.ofNat_le.1 hfits)⟩

end Text

/-! ### Accepted page parameters -/

namespace Parameter

/-- The integer that a parameter denotes: an optional sign and digits. -/
def denoted? (request : Request) (parameter : Parameter) : Option Int :=
  (request.get? parameter.key).bind fun value => Text.integer? (Text.trim value.toList)

/-- The value of the parameter has a minus sign. -/
def Negated (request : Request) (parameter : Parameter) : Prop :=
  ∃ value digits, request.get? parameter.key = some value ∧ Text.trim value.toList = '-' :: digits

/-- The parameter denotes an integer that the rules with these bounds accept. -/
structure Denotes (request : Request) (parameter : Parameter) (least greatest : Nat) (k : Int) :
    Prop where
  denoted : denoted? request parameter = some k
  least_le : (least : Int) ≤ k
  signed : k ≤ Text.maxSigned
  /-- Only the rounded values are compared. -/
  not_above : (Binary64.ofNat greatest).below (Binary64.ofNat k.toNat) = false

variable {request : Request} {parameter : Parameter} {least greatest : Nat} {k : Int}

theorem number?_of_negated (h : Negated request parameter) : number? request parameter = none := by
  obtain ⟨value, digits, hvalue, htext⟩ := h
  rw [number?, hvalue, Option.bind_some, htext, Text.unsigned?_minus]

theorem number?_of_get?_eq_none (h : request.get? parameter.key = none) :
    number? request parameter = none := by
  rw [number?, h, Option.bind_none]

theorem denoted?_of_get?_eq_none (h : request.get? parameter.key = none) :
    denoted? request parameter = none := by
  rw [denoted?, h, Option.bind_none]

namespace Denotes

theorem exists_value (h : Denotes request parameter least greatest k) :
    ∃ value, request.get? parameter.key = some value ∧
      Text.integer? (Text.trim value.toList) = some k :=
  Option.bind_eq_some_iff.1 h.denoted

theorem nonpos (h : Denotes request parameter least greatest k) (hnegated : Negated request parameter) :
    k ≤ 0 := by
  obtain ⟨value, hvalue, hinteger⟩ := h.exists_value
  obtain ⟨_, digits, hvalue', htext⟩ := hnegated
  cases hvalue.symm.trans hvalue'
  rw [htext] at hinteger
  exact Text.nonpos_of_integer?_minus hinteger

theorem number?_eq (h : Denotes request parameter least greatest k)
    (hplain : ¬ Negated request parameter) : number? request parameter = some k.toNat := by
  obtain ⟨value, hvalue, hinteger⟩ := h.exists_value
  have hword : k ≤ Text.maxUnsigned := by
    have hsigned := h.signed
    simp only [Text.maxSigned, Text.maxUnsigned] at hsigned ⊢
    omega
  rw [number?, hvalue, Option.bind_some]
  refine Text.unsigned?_of_integer? ?_ hinteger hword
  intro digits htext
  exact hplain ⟨value, digits, hvalue, htext⟩

/-- A parameter of at least one cannot have a minus sign. -/
theorem number?_eq_of_pos (h : Denotes request parameter least greatest k) (hpos : 0 < least) :
    number? request parameter = some k.toNat := by
  refine h.number?_eq ?_
  intro hnegated
  have hnonpos := h.nonpos hnegated
  have hleast := h.least_le
  omega

end Denotes

end Parameter

namespace Config

open Parameter (Denotes denoted?)

variable {config : Config σ ι} {request : Request}

/-- A page parameter of a valid request is left out, or it denotes an integer. -/
theorem Accepts.denotes (h : config.Accepts request) (parameter : Parameter) {least greatest : Nat}
    (hbounds : parameter.bounds? config.pageSizes = some (least, greatest)) :
    request.get? parameter.key = none ∨ ∃ k, Denotes request parameter least greatest k := by
  cases hvalue : request.get? parameter.key with
  | none => exact .inl rfl
  | some value =>
    have hcheck := h.values parameter parameter.mem_all
    simp only [Parameter.valueViolations, hvalue] at hcheck
    obtain ⟨found, hfound, hnil⟩ := Except.map_eq_ok_iff.1 hcheck
    cases Option.toList_eq_nil_iff.1 hnil
    obtain ⟨k, hk, hleast, hgreatest⟩ := (config.check_number_iff parameter hbounds).1 hfound
    obtain ⟨hinteger, hfits⟩ := Option.filter_eq_some_iff.1 hk
    refine .inr ⟨k, ?_, hleast, ?_, hgreatest⟩
    · rw [denoted?, hvalue, Option.bind_some, hinteger]
    · simp only [Text.fitsSigned, Bool.and_eq_true, decide_eq_true_eq] at hfits
      exact hfits.2

theorem Accepts.denotes_of_denoted? (h : config.Accepts request) {parameter : Parameter}
    {least greatest : Nat} (hbounds : parameter.bounds? config.pageSizes = some (least, greatest))
    {k : Int} (hk : denoted? request parameter = some k) :
    Denotes request parameter least greatest k := by
  rcases h.denotes parameter hbounds with hnone | ⟨l, hl⟩
  · rw [Parameter.denoted?_of_get?_eq_none hnone] at hk
    cases hk
  · cases hl.denoted.symm.trans hk
    exact hl

theorem fit_pageSizes (config : Config σ ι) :
    1 ≤ config.pageSizes.standard ∧ config.pageSizes.standard ≤ config.pageSizes.maximum := by
  have hsizes : config.pageSizes.fit = true := by
    have hnone := (Settings.fault?_eq_none_iff.1 config.faultless).2.2.2.2
    unfold Settings.pageSizeFault? at hnone
    split at hnone
    · assumption
    · cases hnone
  simp only [PageSizes.fit, Bool.and_eq_true, decide_eq_true_eq] at hsizes
  omega

end Config

/-! ### The window of a valid request -/

namespace Query

open Parameter (Denotes Negated denoted? number?)

variable {config : Config σ ι} {request : Request}

theorem limit_windowOf (config : Config σ ι) (request : Request) :
    (windowOf config request).limit
      = max 1 (((number? request .limit).or (number? request .pageSize)).getD
          config.pageSizes.standard) := rfl

theorem offset_windowOf (config : Config σ ι) (request : Request) :
    (windowOf config request).offset
      = min maxOffset (((number? request .offset).or ((number? request .page).map
          fun page => saturatingMul page (windowOf config request).limit)).getD 0) := rfl

/-- The limit is the standard one, or one that a parameter denotes. -/
theorem limit_cases (h : config.Accepts request) :
    ((denoted? request .limit).or (denoted? request .pageSize) = none ∧
        (windowOf config request).limit = config.pageSizes.standard) ∨
      ∃ parameter k, (denoted? request .limit).or (denoted? request .pageSize) = some k ∧
        Denotes request parameter 1 config.pageSizes.maximum k ∧
        (windowOf config request).limit = k.toNat := by
  have hasked : ∀ {parameter k}, Denotes request parameter 1 config.pageSizes.maximum k →
      max 1 k.toNat = k.toNat := by
    intro parameter k hk
    have hleast := hk.least_le
    omega
  rw [limit_windowOf]
  rcases h.denotes .limit rfl with hlimit | ⟨k, hk⟩
  · rw [Parameter.denoted?_of_get?_eq_none hlimit, Parameter.number?_of_get?_eq_none hlimit,
      Option.none_or, Option.none_or]
    rcases h.denotes .pageSize rfl with hsize | ⟨k, hk⟩
    · rw [Parameter.denoted?_of_get?_eq_none hsize, Parameter.number?_of_get?_eq_none hsize]
      exact .inl ⟨rfl, Nat.max_eq_right config.fit_pageSizes.1⟩
    · rw [hk.number?_eq_of_pos Nat.one_pos]
      exact .inr ⟨.pageSize, k, hk.denoted, hk, hasked hk⟩
  · rw [hk.denoted, hk.number?_eq_of_pos Nat.one_pos]
    exact .inr ⟨.limit, k, rfl, hk, hasked hk⟩

/-- The offset that a page number stands for. -/
theorem offset_of_page (h : config.Accepts request) (hoffset : number? request .offset = none)
    {p : Int} (hp : denoted? request .page = some p) :
    ((windowOf config request).offset : Int)
      = min (p * (windowOf config request).limit) maxOffset := by
  rw [offset_windowOf, hoffset, Option.none_or]
  generalize (windowOf config request).limit = limit
  have hk : Denotes request .page 0 maxOffset p := h.denotes_of_denoted? rfl hp
  have hleast := hk.least_le
  by_cases hnegated : Negated request .page
  · -- a negated page number is 0, which is where a window starts anyway
    have hzero : p = 0 := by
      have hnonpos := hk.nonpos hnegated
      omega
    rw [Parameter.number?_of_negated hnegated, hzero, Int.zero_mul]
    exact (Int.min_eq_left (Int.natCast_nonneg maxOffset)).symm
  · rw [hk.number?_eq hnegated, Option.map_some, Option.getD_some, saturatingMul]
    obtain ⟨page, rfl⟩ := Int.eq_ofNat_of_zero_le hleast
    have hbounds : maxOffset ≤ Text.maxUnsigned := by decide
    rw [Int.toNat_natCast, ← Int.natCast_mul]
    omega

theorem offset_of_start (hoffset : number? request .offset = none)
    (hpage : request.get? Parameter.page.key = none) : (windowOf config request).offset = 0 := by
  rw [offset_windowOf, hoffset, Parameter.number?_of_get?_eq_none hpage]
  rfl

theorem offset_of_offset {greatest : Nat} {k : Int} (hk : Denotes request .offset 0 greatest k)
    (hplain : ¬ Negated request .offset) : ((windowOf config request).offset : Int) = k := by
  have hleast := hk.least_le
  have hsigned : k ≤ maxOffset := hk.signed
  rw [offset_windowOf, hk.number?_eq hplain, Option.some_or, Option.getD_some]
  omega

end Query

/-! ### Windows as they were asked for -/

section Honouring

open Parameter (denoted?)

/-- The window is the one that the request asks for.  A limit wins over a page size, an
    offset over a page number. -/
structure Honours (config : Config σ ι) (request : Request) (window : Window) : Prop where
  limit : (window.limit : Int)
    = ((denoted? request .limit).or (denoted? request .pageSize)).getD config.pageSizes.standard
  offset : ∀ k, denoted? request .offset = some k → (window.offset : Int) = k
  page : request.get? Parameter.offset.key = none → ∀ p, denoted? request .page = some p →
    (window.offset : Int) = min (p * window.limit) maxOffset
  start : request.get? Parameter.offset.key = none → request.get? Parameter.page.key = none →
    window.offset = 0

/-- The offset has a minus sign, which of all accepted ones only zeros have, and the page
    number beside it is not zero. -/
def Request.Overlooks (request : Request) : Prop :=
  Parameter.Negated request .offset ∧ ∃ p, denoted? request .page = some p ∧ 0 < p

end Honouring

namespace Query

open Parameter (Negated denoted? number?)

variable {config : Config σ ι} {request : Request}

theorem honours_limit (h : config.Accepts request) :
    ((windowOf config request).limit : Int)
      = ((denoted? request .limit).or (denoted? request .pageSize)).getD
          config.pageSizes.standard := by
  rcases limit_cases h with ⟨hnone, hlimit⟩ | ⟨parameter, k, hk, hdenotes, hlimit⟩
  · rw [hnone, hlimit, Option.getD_none]
  · have hleast := hdenotes.least_le
    rw [hk, hlimit, Option.getD_some]
    omega

/-- With the sign on the offset, the page number counts as if there was no offset. -/
theorem offset_of_overlooks (h : config.Accepts request) (hnegated : Negated request .offset) :
    denoted? request .offset = some 0 ∧ ∀ p, denoted? request .page = some p →
      ((windowOf config request).offset : Int)
        = min (p * (windowOf config request).limit) maxOffset := by
  refine ⟨?_, fun p => offset_of_page h (Parameter.number?_of_negated hnegated)⟩
  rcases h.denotes .offset rfl with hnone | ⟨k, hk⟩
  · obtain ⟨value, _, hvalue, _⟩ := hnegated
    rw [hnone] at hvalue
    cases hvalue
  · have hnonpos := hk.nonpos hnegated
    have hleast := hk.least_le
    rw [hk.denoted]
    congr 1
    omega

theorem honours_offset (h : config.Accepts request) (hoverlooks : ¬ request.Overlooks) {k : Int}
    (hk : denoted? request .offset = some k) : ((windowOf config request).offset : Int) = k := by
  by_cases hnegated : Negated request .offset
  · obtain ⟨hzero, hpage⟩ := offset_of_overlooks h hnegated
    cases hk.symm.trans hzero
    rcases h.denotes .page rfl with hnone | ⟨p, hp⟩
    · exact congrArg Nat.cast (offset_of_start (Parameter.number?_of_negated hnegated) hnone)
    · have hp0 : p = 0 := by
        have hleast := hp.least_le
        by_contra hne
        exact hoverlooks ⟨hnegated, p, hp.denoted, by omega⟩
      rw [hpage p hp.denoted, hp0, Int.zero_mul]
      exact Int.min_eq_left (Int.natCast_nonneg maxOffset)
  · have hdenotes : Parameter.Denotes request .offset 0 maxOffset k := h.denotes_of_denoted? rfl hk
    exact offset_of_offset hdenotes hnegated

theorem limit_pos (config : Config σ ι) (request : Request) : 1 ≤ (windowOf config request).limit :=
  PageRequest.limit_window_pos _ _

theorem not_honours_of_overlooks (h : config.Accepts request) (hoverlooks : request.Overlooks) :
    ¬ Honours config request (windowOf config request) := by
  obtain ⟨hnegated, p, hp, hpos⟩ := hoverlooks
  obtain ⟨hzero, hpage⟩ := offset_of_overlooks h hnegated
  intro honours
  have hoffset := (hpage p hp).symm.trans (honours.offset 0 hzero)
  have hlimit := limit_pos config request
  have hproduct : 0 < p * (windowOf config request).limit := Int.mul_pos hpos (by omega)
  have hmaximum : (0 : Int) < maxOffset := by decide
  omega

theorem honours_of_not_overlooks (h : config.Accepts request) (hoverlooks : ¬ request.Overlooks) :
    Honours config request (windowOf config request) where
  limit := honours_limit h
  offset _ := honours_offset h hoverlooks
  page hnone _ := offset_of_page h (Parameter.number?_of_get?_eq_none hnone)
  start hnone := offset_of_start (Parameter.number?_of_get?_eq_none hnone)

/-- **Accepted page parameters are honoured, but for a negated zero.**  Every page parameter of
    a valid request denotes an integer.  The window is the one that these ask for, unless the
    offset is a zero with a minus sign and a page number beside it is not zero: then the
    page number wins over the offset. -/
theorem honours_iff_not_overlooks {query : Query} (hvalid : ofRequest config request = .ok query) :
    (∀ parameter, parameter ≠ .fields → request.get? parameter.key ≠ none →
        ∃ k, denoted? request parameter = some k) ∧
      (Honours config request query.window ↔ ¬ request.Overlooks) ∧
      (request.Overlooks → denoted? request .offset = some 0 ∧
        (query.window.limit : Int) = ((denoted? request .limit).or
          (denoted? request .pageSize)).getD config.pageSizes.standard ∧
        ∀ p, denoted? request .page = some p →
          (query.window.offset : Int) = min (p * query.window.limit) maxOffset) := by
  obtain ⟨haccepts, rfl⟩ := ofRequest_eq_ok_iff.1 hvalid
  refine ⟨?_, ⟨?_, honours_of_not_overlooks haccepts⟩, ?_⟩
  · intro parameter hfields hgiven
    obtain ⟨bounds, hbounds⟩ : ∃ bounds, parameter.bounds? config.pageSizes = some bounds := by
      cases parameter <;> first | exact ⟨_, rfl⟩ | exact absurd rfl hfields
    rcases haccepts.denotes parameter hbounds with hnone | ⟨k, hk⟩
    · exact absurd hnone hgiven
    · exact ⟨k, hk.denoted⟩
  · intro honours hoverlooks
    exact not_honours_of_overlooks haccepts hoverlooks honours
  · intro hoverlooks
    obtain ⟨hzero, hpage⟩ := offset_of_overlooks haccepts hoverlooks.1
    exact ⟨hzero, honours_limit haccepts, hpage⟩

/-- A sign and blanks make no difference to an offset that is not zero. -/
theorem signed_offset_honoured :
    let request : Request := ⟨"/parcels", [("offset", " +3 "), ("page", "1"), ("page_size", "2")]⟩
    let query := read (parcels Unit Unit) request
    ofRequest (parcels Unit Unit) request = .ok query ∧
      Honours (parcels Unit Unit) request query.window ∧ query.window = ⟨2, 3⟩ := by
  intro request query
  have hviolations : (parcels Unit Unit).violations request = .ok [] := by decide +kernel
  have hquery : ofRequest (parcels Unit Unit) request = .ok query :=
    ofRequest_eq_ok_iff.2 ⟨Config.violations_eq_nil_iff.1 hviolations, rfl⟩
  obtain ⟨-, hhonours, hoverlooked⟩ := honours_iff_not_overlooks hquery
  refine ⟨hquery, hhonours.2 ?_, by decide +kernel⟩
  intro hoverlooks
  have hdenoted : denoted? request .offset = some 3 := by decide +kernel
  cases hdenoted.symm.trans (hoverlooked hoverlooks).1

/-- The offset denotes 0, and the page starts at 2. -/
theorem negated_offset_overlooked :
    let request : Request := ⟨"/parcels", [("offset", "-0"), ("page", "1"), ("page_size", "2")]⟩
    ∃ query, ofRequest (parcels Unit Unit) request = .ok query ∧
      denoted? request .offset = some 0 ∧ query.window = ⟨2, 2⟩ := by
  intro request
  have hviolations : (parcels Unit Unit).violations request = .ok [] := by decide +kernel
  exact ⟨read (parcels Unit Unit) request,
    ofRequest_eq_ok_iff.2 ⟨Config.violations_eq_nil_iff.1 hviolations, rfl⟩, by decide +kernel,
    by decide +kernel⟩

end Query

/-! ### Windows within the page sizes -/

structure Window.Within (sizes : PageSizes) (window : Window) : Prop where
  pos : 1 ≤ window.limit
  limit_le : window.limit ≤ sizes.maximum
  offset_le : window.offset ≤ maxOffset

namespace PageSizes

/-- After rounding, the largest page size is told from the next number, if there is a next
    one among the signed words. -/
def Sharp (sizes : PageSizes) : Prop :=
  Text.maxSigned ≤ sizes.maximum ∨
    (Binary64.ofNat sizes.maximum).below (Binary64.ofNat (sizes.maximum + 1)) = true

/-- Numbers of 53 bits are all told apart. -/
theorem sharp_of_lt {sizes : PageSizes} (h : sizes.maximum < 2 ^ 53) : sizes.Sharp := by
  have hbits : sizes.maximum < 2 * Binary64.binade := h
  exact .inr (Binary64.below_ofNat_iff.2 (Number.nearest_lt_of_lt hbits (Nat.lt_succ_self _)))

theorem Sharp.le_of_not_below {sizes : PageSizes} (h : sizes.Sharp) {n : Nat}
    (hsigned : n ≤ Text.maxSigned)
    (hbelow : (Binary64.ofNat sizes.maximum).below (Binary64.ofNat n) = false) :
    n ≤ sizes.maximum := by
  rcases h with hmaximum | hnext
  · omega
  · rw [← Nat.not_lt]
    intro hlt
    have hmono := Number.nearest_mono (show sizes.maximum + 1 ≤ n from hlt) 1
    have hstep := Binary64.below_ofNat_iff.1 hnext
    rw [Binary64.below_ofNat_iff.2 (by omega)] at hbelow
    cases hbelow

end PageSizes

namespace Request

/-- A request that says nothing but how large the page is to be. -/
def ofLimit (limit : Nat) : Request := ⟨"/", [("limit", String.ofList (Text.decimal limit))]⟩

variable {name : String}

theorem get?_ofLimit (limit : Nat) (h : name ≠ "limit") : (ofLimit limit).get? name = none := by
  have hname : (name == "limit") = false := beq_eq_false_iff_ne.2 h
  simp only [get?, ofLimit, List.reverse_singleton, List.lookup_cons, hname, List.lookup_nil]

theorem has_ofLimit (limit : Nat) (h : name ≠ "limit") : (ofLimit limit).has name = false := by
  have hbase : baseName "limit" = "limit" := by decide
  simp only [has, ofLimit, List.any_cons, List.any_nil, Bool.or_false, hbase]
  exact beq_eq_false_iff_ne.2 (Ne.symm h)

theorem map_ofLimit (limit : Nat) (h : name ≠ "limit") : (ofLimit limit).map name = .absent := by
  have hpairs : (ofLimit limit).pairsOf name = [] :=
    List.filter_eq_nil_iff.2 (List.any_eq_false.1 (has_ofLimit limit h))
  rw [map, hpairs]

end Request

namespace Query

open Parameter (Denotes)

variable {config : Config σ ι} {request : Request}

/-- Rounded, the limit is not above the largest page size. -/
theorem not_below_limit (h : config.Accepts request) :
    (windowOf config request).limit ≤ max Text.maxSigned config.pageSizes.maximum ∧
      (Binary64.ofNat config.pageSizes.maximum).below
        (Binary64.ofNat (windowOf config request).limit) = false := by
  rcases limit_cases h with ⟨-, hlimit⟩ | ⟨parameter, k, -, hk, hlimit⟩
  · have hfit := config.fit_pageSizes.2
    rw [hlimit]
    exact ⟨by omega, Binary64.below_ofNat hfit⟩
  · have hsigned := hk.signed
    rw [hlimit]
    exact ⟨by omega, hk.not_above⟩

theorem within_of_sharp (hsharp : config.pageSizes.Sharp) (h : config.Accepts request) :
    (windowOf config request).Within config.pageSizes where
  pos := limit_pos config request
  limit_le := by
    obtain ⟨hword, hbelow⟩ := not_below_limit h
    by_cases hsigned : (windowOf config request).limit ≤ Text.maxSigned
    · exact hsharp.le_of_not_below hsigned hbelow
    · omega
  offset_le := Nat.min_le_left _ _

theorem accepts_ofLimit {limit : Nat} (hpos : 1 ≤ limit) (hsigned : limit ≤ Text.maxSigned)
    (hbelow : (Binary64.ofNat config.pageSizes.maximum).below (Binary64.ofNat limit) = false) :
    config.Accepts (.ofLimit limit) := by
  have hother : ∀ parameter : Parameter, parameter ≠ .limit → parameter.key ≠ "limit" := by
    intro parameter hne
    cases parameter <;> first | exact absurd rfl hne | decide
  have hget : (Request.ofLimit limit).get? Parameter.limit.key
      = some (String.ofList (Text.decimal limit)) := rfl
  have hcheck : config.validator.check Parameter.limit.key (String.ofList (Text.decimal limit))
      (Parameter.limit.rules config.pageSizes) = .ok none := by
    refine (config.check_number_iff .limit rfl).2 ⟨limit, ?_, ?_, hbelow⟩
    · rw [String.toList_ofList, Text.trim_decimal, Text.signed?_decimal hsigned]
    · exact Int.ofNat_le.2 hpos
  exact {
    shapes := by
      intro parameter _
      by_cases hlimit : parameter = .limit
      · simp only [Parameter.shapeViolations, hlimit, hget, Option.isNone_some, Bool.false_and,
          Bool.false_eq_true, if_false]
      · simp only [Parameter.shapeViolations, Request.has_ofLimit limit (hother parameter hlimit),
          Bool.and_false, Bool.false_eq_true, if_false]
    values := by
      intro parameter _
      by_cases hlimit : parameter = .limit
      · simp only [Parameter.valueViolations, hlimit, hget, hcheck]
        rfl
      · simp only [Parameter.valueViolations, Request.get?_ofLimit limit (hother parameter hlimit)]
    filters := by rw [Config.filterKeyViolations, Request.map_ofLimit limit (by decide)]
    older := by rw [Config.filterKeyViolations, Request.map_ofLimit limit (by decide)]
    sorts := by rw [Config.sortKeyViolations, Request.map_ofLimit limit (by decide)] }

theorem limit_windowOf_ofLimit (config : Config σ ι) {limit : Nat} (hpos : 1 ≤ limit)
    (hsigned : limit ≤ Text.maxSigned) : (windowOf config (.ofLimit limit)).limit = limit := by
  have hword : limit ≤ Text.maxUnsigned := hsigned.trans (by decide)
  have hnumber : Parameter.number? (.ofLimit limit) .limit = some limit := by
    have hget : (Request.ofLimit limit).get? Parameter.limit.key
        = some (String.ofList (Text.decimal limit)) := rfl
    rw [Parameter.number?, hget, Option.bind_some, String.toList_ofList, Text.trim_decimal,
      Text.unsigned?_decimal hword]
  rw [limit_windowOf, hnumber, Option.some_or, Option.getD_some]
  exact Nat.max_eq_right hpos

/-- A largest page size that rounding confuses with the next number lets that one pass. -/
theorem sharp_of_within (h : ∀ request query, ofRequest config request = .ok query →
    query.window.Within config.pageSizes) : config.pageSizes.Sharp := by
  by_contra hsharp
  obtain ⟨hsigned, hbelow⟩ := not_or.1 hsharp
  have haccepts : config.Accepts (.ofLimit (config.pageSizes.maximum + 1)) :=
    accepts_ofLimit (Nat.le_add_left 1 _) (Nat.lt_of_not_le hsigned) (Bool.not_eq_true _ ▸ hbelow)
  have hwithin := h _ _ (ofRequest_eq_ok_iff.2 ⟨haccepts, rfl⟩)
  have hlimit : (windowOf config (.ofLimit (config.pageSizes.maximum + 1))).limit
      = config.pageSizes.maximum + 1 :=
    limit_windowOf_ofLimit config (Nat.le_add_left 1 _) (Nat.lt_of_not_le hsigned)
  exact absurd (hlimit ▸ hwithin.limit_le) (Nat.not_succ_le_self _)

/-- Of the steps in order, fetches are those of the query's page. -/
theorem InOrder.window_eq {query : Query} {trace : List Ran} (h : query.InOrder trace)
    {limit offset : Nat} {error : Option Error} (hmem : ⟨.fetch limit offset, error⟩ ∈ trace) :
    query.window = ⟨limit, offset⟩ := by
  obtain ⟨applied, fetched, rfl, hstarted, hfetched, -⟩ := h
  rcases List.mem_append.1 hmem with hmem | hmem
  · cases isApply_of_mem_sequence (hstarted.subset (List.mem_map_of_mem hmem))
  · obtain ⟨hlimit, hoffset⟩ := Step.fetch.inj (hfetched _ hmem)
    rw [hlimit, hoffset]

end Query

namespace Assembly

/-- A source is asked for no page but that of the request, which is valid. -/
theorem Reached.exists_query [Source σ ι] {config : Config σ ι} {request : Request} {source : σ}
    {assembly : Assembly (Traced σ) ι} (h : Reached config request source assembly)
    {limit offset : Nat} {error : Option Error}
    (hmem : ⟨.fetch limit offset, error⟩ ∈ assembly.source.trace) :
    ∃ query, Query.ofRequest config request = .ok query ∧ query.window = ⟨limit, offset⟩ := by
  have hordered := h.ordered
  cases h with
  | pending => cases hmem
  | validated valid => cases hmem
  | applied valid _ | assembled valid _ | poisoned valid _ =>
    refine ⟨_, valid, ?_⟩
    rw [(Query.ofRequest_eq_ok_iff.1 valid).2]
    exact hordered.window_eq hmem

/-- **Windows are within the page sizes as far as rounding tells.**  All valid requests have
    windows within the page sizes exactly when the largest one is sharp, as every one of
    less than 53 bits is.  In any case a limit is at least 1 and, rounded, not above the
    largest one, and an offset fits a signed word.  No run of calls makes a source fetch
    a page but that of a valid request. -/
theorem windows_within_iff_sharp [Source σ ι] [Representable ι] (config : Config σ ι) :
    ((∀ request query, Query.ofRequest config request = .ok query →
        query.window.Within config.pageSizes) ↔ config.pageSizes.Sharp) ∧
      (config.pageSizes.maximum < 2 ^ 53 → config.pageSizes.Sharp) ∧
      (∀ request query, Query.ofRequest config request = .ok query →
        1 ≤ query.window.limit ∧ query.window.offset ≤ maxOffset ∧
          (Binary64.ofNat config.pageSizes.maximum).below
            (Binary64.ofNat query.window.limit) = false) ∧
      ∀ request source calls limit offset error,
        ⟨.fetch limit offset, error⟩
            ∈ (run calls (start config.traced request ⟨source, []⟩)).source.trace →
          ∃ query, Query.ofRequest config request = .ok query ∧
            query.window = ⟨limit, offset⟩ := by
  refine ⟨⟨Query.sharp_of_within, ?_⟩, PageSizes.sharp_of_lt, ?_, ?_⟩
  · intro hsharp request query hvalid
    obtain ⟨haccepts, rfl⟩ := Query.ofRequest_eq_ok_iff.1 hvalid
    exact Query.within_of_sharp hsharp haccepts
  · intro request query hvalid
    obtain ⟨haccepts, rfl⟩ := Query.ofRequest_eq_ok_iff.1 hvalid
    exact ⟨Query.limit_pos config request, Nat.min_le_left _ _, (Query.not_below_limit haccepts).2⟩
  · intro request source calls limit offset error hmem
    exact (reached_run calls).exists_query hmem

/-- A listing whose largest page size is two to the power 53. -/
def vast : Config Unit Unit := ⟨{ Settings.empty with pageSizes := ⟨10, 9007199254740992⟩ }, rfl⟩

/-- Rounded, the limit is the largest page size, which it exceeds by one. -/
theorem vast_limit_exceeded :
    let request : Request := ⟨"/", [("limit", "9007199254740993")]⟩
    ∃ query, Query.ofRequest vast request = .ok query ∧
      query.window.limit = 9007199254740993 ∧ vast.pageSizes.maximum = 9007199254740992 := by
  intro request
  have hviolations : vast.violations request = .ok [] := by decide +kernel
  exact ⟨Query.read vast request,
    Query.ofRequest_eq_ok_iff.2 ⟨Config.violations_eq_nil_iff.1 hviolations, rfl⟩,
    by decide +kernel, rfl⟩

end Assembly

end Listing
