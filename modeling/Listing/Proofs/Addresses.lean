/-
  Listing/Proofs/Addresses.lean
  =============================
  **The address of another page differs in the offset alone.**

  What the pairs of a request become at another offset is told by the place of the
  first offset among them (`Moved`): it takes the new value, every further offset
  and every page number goes, and an offset that was missing is added at the end.
  The address is read back as exactly these pairs (`urlAt_moves`), whatever stands
  in keys and values, so all that is not about the offset or the page number is
  said as before, and moving on from there leads where moving from the request
  itself does.
-/
import Listing.Proofs.Navigation

namespace Listing.Request

variable {offset : String} {pairs : List (String × String)}

/-! ### Pairs at another offset -/

/-- What pairs become at another offset. -/
inductive Moved (offset : String) : List (String × String) → List (String × String) → Prop where
  /-- The first offset takes the new value, and those behind it go. -/
  | replaced {before after : List (String × String)} (value : String)
      (first : ∀ pair ∈ before, pair.1 ≠ "offset") :
      Moved offset (before ++ ("offset", value) :: after)
        (before.filter (·.1 ≠ "page") ++ ("offset", offset) ::
          after.filter fun pair => pair.1 ≠ "page" ∧ pair.1 ≠ "offset")
  /-- There is no offset, so it is added at the end. -/
  | added {pairs : List (String × String)} (missing : ∀ pair ∈ pairs, pair.1 ≠ "offset") :
      Moved offset pairs (pairs.filter (·.1 ≠ "page") ++ [("offset", offset)])

/-- Behind the first offset nothing is left of offsets and page numbers. -/
theorem replaceOffset_true (pairs : List (String × String)) :
    replaceOffset offset true pairs
      = pairs.filter fun pair => pair.1 ≠ "page" ∧ pair.1 ≠ "offset" := by
  induction pairs with
  | nil => rfl
  | cons pair rest ih =>
    obtain ⟨key, value⟩ := pair
    rw [replaceOffset, ih, List.filter_cons]
    by_cases hpage : key = "page"
    · simp [hpage]
    · by_cases hoffset : key = "offset"
      · simp [hoffset]
      · simp [hpage, hoffset]

/-- Up to the first offset only page numbers go. -/
theorem replaceOffset_append (offset : String) {before : List (String × String)}
    (h : ∀ pair ∈ before, pair.1 ≠ "offset") (replaced : Bool) (rest : List (String × String)) :
    replaceOffset offset replaced (before ++ rest)
      = before.filter (·.1 ≠ "page") ++ replaceOffset offset replaced rest := by
  induction before with
  | nil => rfl
  | cons pair more ih =>
    obtain ⟨key, value⟩ := pair
    obtain ⟨hoffset, hmore⟩ := List.forall_mem_cons.1 h
    rw [List.cons_append, replaceOffset, if_neg hoffset, ih hmore, List.filter_cons]
    by_cases hpage : key = "page"
    · simp [hpage]
    · simp [hpage]

theorem moved_replaceOffset (offset : String) (pairs : List (String × String)) :
    Moved offset pairs (replaceOffset offset false pairs) := by
  cases hfind : pairs.find? fun pair => pair.1 == "offset" with
  | none =>
    have hmissing : ∀ pair ∈ pairs, pair.1 ≠ "offset" := by
      intro pair hmem hkey
      exact List.find?_eq_none.1 hfind pair hmem (beq_iff_eq.2 hkey)
    have hmoved := replaceOffset_append offset hmissing false []
    rw [List.append_nil] at hmoved
    rw [hmoved]
    exact .added hmissing
  | some pair =>
    obtain ⟨hkey, before, after, rfl, hbefore⟩ := List.find?_eq_some_iff_append.1 hfind
    obtain ⟨key, value⟩ := pair
    obtain rfl : key = "offset" := eq_of_beq hkey
    have hfirst : ∀ pair ∈ before, pair.1 ≠ "offset" := by
      intro pair hmem heq
      simpa [heq] using hbefore pair hmem
    have hrest : replaceOffset offset false (("offset", value) :: after)
        = ("offset", offset) :: replaceOffset offset true after := rfl
    rw [replaceOffset_append offset hfirst, hrest, replaceOffset_true]
    exact .replaced value hfirst

/-- Of two moves the second one counts. -/
theorem replaceOffset_replaceOffset (other : String) (replaced : Bool)
    (pairs : List (String × String)) :
    replaceOffset other replaced (replaceOffset offset replaced pairs)
      = replaceOffset other replaced pairs := by
  induction pairs generalizing replaced with
  | nil => cases replaced <;> rfl
  | cons pair rest ih =>
    obtain ⟨key, value⟩ := pair
    by_cases hpage : key = "page"
    · simp only [replaceOffset, hpage, if_true, ih]
    · by_cases hoffset : key = "offset"
      · cases replaced with
        | true => simp [replaceOffset, hoffset, ih]
        | false => simp [replaceOffset, hoffset, ih]
      · simp only [replaceOffset, hpage, hoffset, if_false, ih]

/-! ### Requests at another offset -/

theorem atOffset_atOffset (request : Request) (offset other : Nat) :
    (request.atOffset offset).atOffset other = request.atOffset other := by
  simp only [atOffset, replaceOffset_replaceOffset]

/-- The plain value of every other key stays. -/
theorem get?_atOffset_of_ne (request : Request) (offset : Nat) {key : String} (hpage : key ≠ "page")
    (hoffset : key ≠ "offset") : (request.atOffset offset).get? key = request.get? key := by
  have hkeep : ∀ pair : String × String, pair.1 = key → (pair.1 == key) = true :=
    fun _ => beq_iff_eq.2
  have hfilter : (request.atOffset offset).pairs.filter (·.1 == key)
      = request.pairs.filter (·.1 == key) := by
    refine filter_replaceOffset ?_ ?_ false request.pairs
    · exact fun _ => beq_eq_false_iff_ne.2 hpage.symm
    · exact fun _ => beq_eq_false_iff_ne.2 hoffset.symm
  rw [get?_eq_lookup _ hkeep, hfilter, ← get?_eq_lookup request hkeep]

/-- **The address of another page differs in the offset alone.**  It is the path and a query
    string, and what is read back from these has the pairs of the request, moved to the offset.
    So it has this offset and no page number; every other key has its plain value, and every
    other name its table of entries.  From there any offset has the address that it has from
    the request. -/
theorem urlAt_moves (request : Request) (offset : Nat) :
    ∃ query, request.urlAt offset = request.path ++ "?" ++ query ∧
      let moved := ofQuery request.path query
      moved.path = request.path ∧
      Moved (String.ofList (Text.decimal offset)) request.pairs moved.pairs ∧
      moved.get? "offset" = some (String.ofList (Text.decimal offset)) ∧
      moved.get? "page" = none ∧
      (∀ key, key ≠ "page" → key ≠ "offset" → moved.get? key = request.get? key) ∧
      (∀ name, name ≠ "page" → name ≠ "offset" → moved.map name = request.map name) ∧
      ∀ other, moved.urlAt other = request.urlAt other := by
  obtain ⟨query, hurl, hread⟩ := (request.atOffset offset).exists_url
  have hmoved : ofQuery request.path query = request.atOffset offset := hread
  refine ⟨query, hurl, ?_⟩
  rw [hmoved]
  refine ⟨rfl, moved_replaceOffset _ request.pairs, get?_offset_atOffset request offset,
    get?_page_atOffset request offset, ?_, ?_, ?_⟩
  · intro key hpage hoffset
    exact get?_atOffset_of_ne request offset hpage hoffset
  · intro name hpage hoffset
    exact map_congr (pairsOf_atOffset request offset hpage hoffset)
  · intro other
    rw [urlAt, atOffset_atOffset, urlAt]

/-- Separators and escapes in keys and values, two page numbers and two offsets. -/
example :
    let request : Request := ⟨"/parcels", [("page", "1"), ("a=b&c", "1+1 %"), ("offset", "x"),
      ("", ""), ("page", "2"), ("offset", "y"), ("sort[größe]", "asc")]⟩
    request.urlAt 40 =
      "/parcels?a%3Db%26c=1%2B1+%25&offset=40&=&sort%5Bgr%C3%B6%C3%9Fe%5D=asc" := by
  decide +kernel

end Listing.Request
