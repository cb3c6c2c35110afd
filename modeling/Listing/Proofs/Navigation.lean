/-
  Listing/Proofs/Navigation.lean
  ==============================
  **Links lead back into the listing.**

  What a request says under a name depends on the pairs of that base name only, and
  replacing the offset leaves the pairs of every other name alone except for page
  numbers.  A request at another offset is therefore read as before, but for the
  offset of its window (`ofRequest_atOffset`).  The offsets of links are offsets that
  the checks accept, so every link of a page is the address of such a request
  (`links_lead_back`).
-/
import Listing.Proofs.Forms
import Listing.Proofs.Magnitudes
import Listing.Proofs.Serving

namespace Listing

variable {σ ι α β : Type}

/-! ### What a request says under a name -/

theorem lookup_filter {key : String} {keep : String × String → Bool}
    (h : ∀ pair, pair.1 = key → keep pair = true) (pairs : List (String × String)) :
    (pairs.filter keep).lookup key = pairs.lookup key := by
  induction pairs with
  | nil => rfl
  | cons pair rest ih =>
    obtain ⟨name, value⟩ := pair
    by_cases hname : name = key
    · rw [List.filter_cons_of_pos (h _ hname), hname, List.lookup_cons_self, List.lookup_cons_self]
    · have hother : (key == name) = false := beq_eq_false_iff_ne.2 (Ne.symm hname)
      rw [List.lookup_cons, hother]
      by_cases hkeep : keep (name, value) = true
      · rw [List.filter_cons_of_pos hkeep, List.lookup_cons, hother]
        exact ih
      · rw [List.filter_cons_of_neg hkeep]
        exact ih

namespace Request

variable {request other : Request} {name : String}

/-- The plain value of a key depends on the pairs of that key alone. -/
theorem get?_eq_lookup (request : Request) {keep : String × String → Bool}
    (h : ∀ pair, pair.1 = name → keep pair = true) :
    request.get? name = (request.pairs.filter keep).reverse.lookup name := by
  rw [← List.filter_reverse, lookup_filter h, get?]

theorem get?_congr (hname : baseName name = name)
    (h : request.pairsOf name = other.pairsOf name) : request.get? name = other.get? name := by
  have hkeep : ∀ pair : String × String, pair.1 = name → (baseName pair.1 == name) = true := by
    rintro pair rfl
    exact beq_iff_eq.2 hname
  rw [get?_eq_lookup request hkeep, get?_eq_lookup other hkeep]
  exact congrArg (fun pairs => List.lookup name (List.reverse pairs)) h

theorem has_congr (h : request.pairsOf name = other.pairsOf name) :
    request.has name = other.has name := by
  have hhas : ∀ r : Request, r.has name = !(r.pairsOf name).isEmpty := by
    intro r
    rw [has, pairsOf, Bool.eq_iff_iff]
    simp
  rw [hhas, hhas, h]

theorem map_congr (h : request.pairsOf name = other.pairsOf name) :
    request.map name = other.map name := by
  rw [map, map, h]

/-! ### Replacing the offset -/

variable {offset : String}

/-- Pairs of other names stay as they are and in their order. -/
theorem filter_replaceOffset {keep : String × String → Bool}
    (hpage : ∀ value, keep ("page", value) = false)
    (hoffset : ∀ value, keep ("offset", value) = false)
    (replaced : Bool) (pairs : List (String × String)) :
    (replaceOffset offset replaced pairs).filter keep = pairs.filter keep := by
  induction pairs generalizing replaced with
  | nil =>
    cases replaced with
    | false => simp [replaceOffset, hoffset]
    | true => rfl
  | cons pair rest ih =>
    obtain ⟨key, value⟩ := pair
    rw [replaceOffset]
    by_cases hkeyPage : key = "page"
    · rw [if_pos hkeyPage, ih, List.filter_cons_of_neg (by simp [hkeyPage, hpage])]
    · rw [if_neg hkeyPage]
      by_cases hkeyOffset : key = "offset"
      · rw [if_pos hkeyOffset, List.filter_cons_of_neg (by simp [hkeyOffset, hoffset])]
        split
        · exact ih true
        · rw [List.filter_cons_of_neg (by simp [hkeyOffset, hoffset])]
          exact ih true
      · rw [if_neg hkeyOffset]
        simp only [List.filter_cons, ih]

theorem filter_page_replaceOffset (replaced : Bool) (pairs : List (String × String)) :
    (replaceOffset offset replaced pairs).filter (·.1 == "page") = [] := by
  induction pairs generalizing replaced with
  | nil =>
    cases replaced with
    | false => rfl
    | true => rfl
  | cons pair rest ih =>
    obtain ⟨key, value⟩ := pair
    rw [replaceOffset]
    by_cases hpage : key = "page"
    · rw [if_pos hpage, ih]
    · rw [if_neg hpage]
      by_cases hoffset : key = "offset"
      · rw [if_pos hoffset]
        split
        · exact ih true
        · rw [List.filter_cons_of_neg (by simp [hoffset]), ih]
      · rw [if_neg hoffset, List.filter_cons_of_neg (by simp [hpage]), ih]

/-- The offset is given exactly once. -/
theorem filter_offset_replaceOffset (replaced : Bool) (pairs : List (String × String)) :
    (replaceOffset offset replaced pairs).filter (·.1 == "offset")
      = if replaced then [] else [("offset", offset)] := by
  induction pairs generalizing replaced with
  | nil =>
    cases replaced with
    | false => rfl
    | true => rfl
  | cons pair rest ih =>
    obtain ⟨key, value⟩ := pair
    rw [replaceOffset]
    by_cases hpage : key = "page"
    · rw [if_pos hpage, ih]
    · rw [if_neg hpage]
      by_cases hoffset : key = "offset"
      · rw [if_pos hoffset]
        cases replaced with
        | true => simpa using ih true
        | false =>
          simp only [Bool.false_eq_true, if_false]
          rw [List.filter_cons_of_pos (by simp [hoffset]), ih, hoffset]
          rfl
      · rw [if_neg hoffset, List.filter_cons_of_neg (by simp [hoffset]), ih]

/-- A request at another offset says the same under every other name. -/
theorem pairsOf_atOffset (request : Request) (offset : Nat) (hpage : name ≠ "page")
    (hoffset : name ≠ "offset") : (request.atOffset offset).pairsOf name = request.pairsOf name := by
  have hpageName : baseName "page" = "page" := by decide
  have hoffsetName : baseName "offset" = "offset" := by decide
  refine filter_replaceOffset ?_ ?_ false request.pairs
  · intro value
    exact beq_eq_false_iff_ne.2 (hpageName.trans_ne (Ne.symm hpage))
  · intro value
    exact beq_eq_false_iff_ne.2 (hoffsetName.trans_ne (Ne.symm hoffset))

theorem get?_offset_atOffset (request : Request) (offset : Nat) :
    (request.atOffset offset).get? "offset" = some (String.ofList (Text.decimal offset)) := by
  have hkeep : ∀ pair : String × String, pair.1 = "offset" → (pair.1 == "offset") = true :=
    fun _ => beq_iff_eq.2
  rw [get?_eq_lookup _ hkeep, atOffset, filter_offset_replaceOffset]
  rfl

theorem get?_page_atOffset (request : Request) (offset : Nat) :
    (request.atOffset offset).get? "page" = none := by
  have hkeep : ∀ pair : String × String, pair.1 = "page" → (pair.1 == "page") = true :=
    fun _ => beq_iff_eq.2
  rw [get?_eq_lookup _ hkeep, atOffset, filter_page_replaceOffset]
  rfl

/-- Whether a page number is given in brackets. -/
def bracketsPage (request : Request) : Bool :=
  request.pairs.any fun pair => baseName pair.1 == "page" && pair.1 != "page"

theorem has_page_atOffset (h : request.bracketsPage = false) (offset : Nat) :
    (request.atOffset offset).has "page" = false := by
  have hbracketed : (request.atOffset offset).pairs.filter
      (fun pair => baseName pair.1 == "page" && pair.1 != "page") = [] := by
    refine (filter_replaceOffset ?_ ?_ false request.pairs).trans ?_
    · intro value
      exact Bool.and_eq_false_iff.2 (.inr rfl)
    · intro value
      have hoffset : (baseName "offset" == "page") = false := by decide
      exact Bool.and_eq_false_iff.2 (.inl hoffset)
    · exact List.filter_eq_nil_iff.2 (List.any_eq_false.1 h)
  have hplain : (request.atOffset offset).pairs.filter (·.1 == "page") = [] :=
    filter_page_replaceOffset false request.pairs
  rw [has, List.any_eq_false]
  intro pair hmem hbase
  by_cases hkey : pair.1 = "page"
  · exact List.filter_eq_nil_iff.1 hplain pair hmem (beq_iff_eq.2 hkey)
  · exact List.filter_eq_nil_iff.1 hbracketed pair hmem
      (Bool.and_eq_true_iff.2 ⟨hbase, bne_iff_ne.2 hkey⟩)

/-- A request is read from the address that it is written as. -/
theorem exists_url (request : Request) :
    ∃ query, request.url = request.path ++ "?" ++ query ∧ ofQuery request.path query = request := by
  refine ⟨String.ofList (Url.writeForm request.pairs), rfl, ?_⟩
  rw [ofQuery, String.toList_ofList, Url.readForm_writeForm]

end Request

/-! ### Valid requests at another offset -/

namespace Parameter

variable {parameter : Parameter}

theorem pairsOf_key_atOffset (hpage : parameter ≠ .page) (hoffset : parameter ≠ .offset)
    (request : Request) (offset : Nat) :
    (request.atOffset offset).pairsOf parameter.key = request.pairsOf parameter.key := by
  refine Request.pairsOf_atOffset request offset ?_ ?_
  · cases parameter <;> first | decide | exact absurd rfl hpage
  · cases parameter <;> first | decide | exact absurd rfl hoffset

theorem get?_key_atOffset (hpage : parameter ≠ .page) (hoffset : parameter ≠ .offset)
    (request : Request) (offset : Nat) :
    (request.atOffset offset).get? parameter.key = request.get? parameter.key := by
  refine Request.get?_congr ?_ (pairsOf_key_atOffset hpage hoffset request offset)
  cases parameter <;> decide

theorem number?_atOffset (hpage : parameter ≠ .page) (hoffset : parameter ≠ .offset)
    (request : Request) (offset : Nat) :
    number? (request.atOffset offset) parameter = number? request parameter := by
  rw [number?, number?, get?_key_atOffset hpage hoffset]

theorem number?_offset_atOffset (request : Request) {offset : Nat} (h : offset ≤ maxOffset) :
    number? (request.atOffset offset) .offset = some offset := by
  have hword : offset ≤ Text.maxUnsigned := h.trans (by decide)
  rw [number?, key, Request.get?_offset_atOffset, Option.bind_some, String.toList_ofList,
    Text.trim_decimal, Text.unsigned?_decimal hword]

end Parameter

namespace Config

variable {config : Config σ ι} {request : Request} {offset : Nat}

theorem check_offset (config : Config σ ι) (h : offset ≤ maxOffset) :
    config.validator.check "offset" (String.ofList (Text.decimal offset)) Parameter.offsetRules
      = .ok none := by
  refine (config.check_number_iff .offset rfl).2 ⟨offset, ?_, ?_, ?_⟩
  · rw [String.toList_ofList, Text.trim_decimal, Text.signed?_decimal h]
  · exact Int.natCast_nonneg offset
  · exact Number.Binary64.below_ofNat h

theorem filterKeyViolations_atOffset {key : String} (hpage : key ≠ "page")
    (hoffset : key ≠ "offset") :
    config.filterKeyViolations (request.atOffset offset) key
      = config.filterKeyViolations request key := by
  rw [filterKeyViolations, filterKeyViolations,
    Request.map_congr (Request.pairsOf_atOffset request offset hpage hoffset)]

/-- A valid request is valid at every other offset. -/
theorem Accepts.atOffset (h : config.Accepts request) (hbrackets : request.bracketsPage = false)
    (hoffset : offset ≤ maxOffset) : config.Accepts (request.atOffset offset) where
  shapes := by
    intro parameter hmem
    by_cases hpage : parameter = .page
    · have hhas : (request.atOffset offset).has "page" = false :=
        Request.has_page_atOffset hbrackets offset
      simp only [hpage, Parameter.shapeViolations, Parameter.key, hhas, Bool.and_false,
        Bool.false_eq_true, if_false]
    · by_cases hoffset : parameter = .offset
      · simp only [hoffset, Parameter.shapeViolations, Parameter.key,
          Request.get?_offset_atOffset, Option.isNone_some, Bool.false_and, Bool.false_eq_true,
          if_false]
      · have hpairs := Parameter.pairsOf_key_atOffset hpage hoffset request offset
        have hget := Parameter.get?_key_atOffset hpage hoffset request offset
        have hshapes := h.shapes parameter hmem
        rwa [Parameter.shapeViolations, ← hget, ← Request.has_congr hpairs] at hshapes
  values := by
    intro parameter hmem
    by_cases hpage : parameter = .page
    · simp only [hpage, Parameter.valueViolations, Parameter.key, Request.get?_page_atOffset]
    · by_cases hparameter : parameter = .offset
      · simp only [hparameter, Parameter.valueViolations, Parameter.key, Parameter.rules,
          Request.get?_offset_atOffset, config.check_offset hoffset]
        rfl
      · have hget := Parameter.get?_key_atOffset hpage hparameter request offset
        have hvalues := h.values parameter hmem
        rwa [Parameter.valueViolations, ← hget] at hvalues
  filters := (filterKeyViolations_atOffset (by decide) (by decide)).trans h.filters
  older := (filterKeyViolations_atOffset (by decide) (by decide)).trans h.older
  sorts := by
    rw [sortKeyViolations,
      Request.map_congr (Request.pairsOf_atOffset request offset (by decide) (by decide))]
    exact h.sorts

end Config

namespace Query

variable {config : Config σ ι} {request : Request} {offset : Nat}

theorem entries_atOffset {key : String} (hpage : key ≠ "page") (hoffset : key ≠ "offset") :
    entries (request.atOffset offset) key = entries request key := by
  rw [entries, entries, Request.map_congr (Request.pairsOf_atOffset request offset hpage hoffset)]

theorem windowOf_atOffset (h : offset ≤ maxOffset) :
    windowOf config (request.atOffset offset) = { windowOf config request with offset := offset } := by
  have hlimit : Parameter.number? (request.atOffset offset) .limit
      = Parameter.number? request .limit :=
    Parameter.number?_atOffset (by decide) (by decide) request offset
  have hpageSize : Parameter.number? (request.atOffset offset) .pageSize
      = Parameter.number? request .pageSize :=
    Parameter.number?_atOffset (by decide) (by decide) request offset
  have hoffset := Parameter.number?_offset_atOffset request h
  simp only [windowOf, PageRequest.window, hlimit, hpageSize, hoffset, Option.some_or,
    Option.getD_some, Nat.min_eq_right h]

/-- At another offset a request asks for the same, but for the offset. -/
theorem read_atOffset (h : offset ≤ maxOffset) :
    read config (request.atOffset offset)
      = { read config request with window := { windowOf config request with offset := offset } } := by
  have hdetail : detailOf (request.atOffset offset) = detailOf request := by
    rw [detailOf, detailOf, Parameter.get?_key_atOffset (by decide) (by decide)]
  have hfilters : filtersOf (request.atOffset offset) = filtersOf request := by
    rw [filtersOf, filtersOf, entries_atOffset (by decide) (by decide),
      entries_atOffset (by decide) (by decide)]
  have hsort : sortOf config (request.atOffset offset) = sortOf config request := by
    rw [sortOf, sortOf, requestedSort, requestedSort, entries_atOffset (by decide) (by decide)]
  simp only [read, windowOf_atOffset h, hdetail, hfilters, hsort]

/-- A valid request is read at another offset as before, but for the offset. -/
theorem ofRequest_atOffset {query : Query} (hvalid : ofRequest config request = .ok query)
    (hbrackets : request.bracketsPage = false) (hoffset : offset ≤ maxOffset) :
    ofRequest config (request.atOffset offset)
      = .ok { query with window := { query.window with offset := offset } } := by
  obtain ⟨haccepts, rfl⟩ := ofRequest_eq_ok_iff.1 hvalid
  exact ofRequest_eq_ok_iff.2 ⟨haccepts.atOffset hbrackets hoffset, (read_atOffset hoffset).symm⟩

end Query

/-! ### The offsets of links -/

namespace Links

/-- Every link leads to a place with a property. -/
structure All (property : α → Prop) (links : Links α) : Prop where
  first : ∀ place ∈ links.first, property place
  prev : ∀ place ∈ links.prev, property place
  next : ∀ place ∈ links.next, property place
  last : ∀ place ∈ links.last, property place

/-- Two groups of links in which the same links are missing, and the others are related. -/
structure Related (relation : α → β → Prop) (links : Links α) (others : Links β) : Prop where
  first : Option.Rel relation links.first others.first
  prev : Option.Rel relation links.prev others.prev
  next : Option.Rel relation links.next others.next
  last : Option.Rel relation links.last others.last

/-- Links are related to what they are changed to when every place is. -/
theorem All.related_map {property : α → Prop} {relation : α → β → Prop} {change : α → β}
    {links : Links α} (h : links.All property)
    (hchange : ∀ place, property place → relation place (change place)) :
    Related relation links (links.map change) := by
  have hrel : ∀ {link : Option α}, (∀ place ∈ link, property place) →
      Option.Rel relation link (link.map change) := by
    intro link hlink
    cases link with
    | none => exact .none
    | some place => exact .some (hchange place (hlink place rfl))
  exact ⟨hrel h.first, hrel h.prev, hrel h.next, hrel h.last⟩

/-- No link leads beyond the greatest offset. -/
theorem all_ofPage {total offset : Nat} (htotal : total ≤ Text.maxSigned)
    (hoffset : offset ≤ maxOffset) (limit : Nat) :
    (ofPage total limit offset).All (· ≤ maxOffset) where
  first := by
    intro place hplace
    obtain ⟨-, ⟨⟩⟩ := Option.ite_none_right_eq_some.1 hplace
    exact Nat.zero_le _
  prev := by
    intro place hplace
    obtain ⟨-, ⟨⟩⟩ := Option.ite_none_right_eq_some.1 hplace
    exact (Nat.sub_le _ _).trans hoffset
  next := by
    intro place hplace
    obtain ⟨hless, ⟨⟩⟩ := Option.ite_none_right_eq_some.1 hplace
    -- a sum below the total has not stopped at the largest word
    have hword : Text.maxSigned < Text.maxUnsigned := by decide
    have hgreatest : maxOffset = Text.maxSigned := rfl
    simp only [saturatingAdd] at hless
    omega
  last := by
    intro place hplace
    obtain ⟨-, ⟨⟩⟩ := Option.ite_none_right_eq_some.1 hplace
    exact (Nat.div_mul_le_self _ _).trans ((Nat.sub_le _ _).trans htotal)

end Links

/-! ### Links -/

namespace Query

/-- A link with a path and a query string from which the same is asked for, at the link's
    offset. -/
def LedBackTo (config : Config σ ι) (path : String) (query : Query) (offset : Nat)
    (link : String) : Prop :=
  ∃ text, link = path ++ "?" ++ text ∧
    ofRequest config (Request.ofQuery path text)
      = .ok { query with window := { query.window with offset := offset } }

end Query

namespace Request

/-- **Every link leads back into the listing.**  Whatever page a valid request asks for, a link
    of that page is a path and a query string, and the request that is read from them is
    valid: it asks for the same limit, detail, filters and sort keys, and the document tells
    the same of it, at the offset of the link. -/
theorem links_lead_back {config : Config σ ι} {request : Request} {query : Query} {total : Nat}
    (hvalid : Query.ofRequest config request = .ok query)
    (hbrackets : request.bracketsPage = false) (htotal : total ≤ Text.maxSigned) :
    let offsets := Links.ofPage total query.window.limit query.window.offset
    Links.Related (query.LedBackTo config request.path) offsets (offsets.map request.urlAt) := by
  intro offsets
  have hoffset : query.window.offset ≤ maxOffset := by
    obtain ⟨-, rfl⟩ := Query.ofRequest_eq_ok_iff.1 hvalid
    exact Nat.min_le_left _ _
  refine (Links.all_ofPage htotal hoffset query.window.limit).related_map ?_
  intro offset hplace
  obtain ⟨text, hurl, hread⟩ := (request.atOffset offset).exists_url
  refine ⟨text, hurl, ?_⟩
  have hquery := Query.ofRequest_atOffset hvalid hbrackets hplace
  rwa [← hread] at hquery

/-- The links of a page number, beside a filter whose words are no plain text. -/
theorem parcels_links_lead_back :
    let request : Request := ⟨"/parcels",
      [("page", "1"), ("filters[colour][]", "in:blå,r&d"), ("page_size", "2")]⟩
    let query := Query.read (parcels Unit Row) request
    let offsets := Links.ofPage 5 query.window.limit query.window.offset
    offsets = ⟨some 0, some 0, some 4, some 4⟩ ∧
      Links.Related (query.LedBackTo (parcels Unit Row) "/parcels") offsets
        (offsets.map request.urlAt) ∧
      request.urlAt 4
        = "/parcels?filters%5Bcolour%5D%5B%5D=in%3Abl%C3%A5%2Cr%26d&page_size=2&offset=4" := by
  intro request query offsets
  have hvalid : (parcels Unit Row).violations request = .ok [] := by decide +kernel
  have hquery := Query.ofRequest_eq_ok_iff.2 ⟨Config.violations_eq_nil_iff.1 hvalid, rfl⟩
  refine ⟨?_, links_lead_back hquery ?_ ?_, ?_⟩
  · decide +kernel
  · decide +kernel
  · decide +kernel
  · decide +kernel

end Request

end Listing
