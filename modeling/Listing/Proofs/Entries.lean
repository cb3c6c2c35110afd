/-
  Listing/Proofs/Entries.lean
  ===========================
  **What bracketed parameters list.**

  Behind the name of a parameter a key has an entry in brackets (`Names`).  The
  pairs of one name are entered into a table one after the other: a pair with
  nothing behind its closing bracket replaces the values of its entry, any other
  pair appends to them.  So the values of an entry are those from its last
  replacing pair on (`Latest`), which is the invariant of the entering (`Lists`);
  the entries stand in the order of their first pairs.
-/
import Listing.Proofs.Navigation
import Listing.Proofs.Results
import Listing.Proofs.Tables

namespace Listing

namespace Request

variable {name key : String} {bracket : Bracket}

/-! ### Keys of a name -/

/-- The text behind the first octets of a text; there is none when these are too many or end
    within a character. -/
def behind? : Nat → List Char → Option (List Char)
  | 0, cs => some cs
  | _ + 1, [] => none
  | n + 1, c :: cs =>
    if (Url.encodeChar c).length ≤ n + 1 then behind? (n + 1 - (Url.encodeChar c).length) cs
    else none

theorem behind?_append (front cs : List Char) :
    behind? (Url.encode front).length (front ++ cs) = some cs := by
  induction front with
  | nil => cases cs <;> rfl
  | cons c rest ih =>
    have hlength : (Url.encode (c :: rest)).length
        = (Url.encodeChar c).length + (Url.encode rest).length := by
      rw [Url.encode, List.flatMap_cons, List.length_append, Url.encode]
    have hpos : 0 < (Url.encodeChar c).length :=
      List.length_pos_iff.2 (Url.encodeChar_ne_nil c)
    obtain ⟨n, hn⟩ : ∃ n, (Url.encode (c :: rest)).length = n + 1 :=
      ⟨(Url.encode (c :: rest)).length - 1, by omega⟩
    rw [hn, List.cons_append, behind?, if_pos (by omega)]
    have hleft : n + 1 - (Url.encodeChar c).length = (Url.encode rest).length := by omega
    rw [hleft, ih]

/-- Read what stands behind a name: an opening bracket and what it encloses. -/
def Bracket.read? : List Char → Option Bracket
  | '[' :: text => Bracket.ofText? text
  | _ => none

/-- A key of a name is the name with something behind it, which is read as its bracket. -/
theorem exists_behind_name (h : baseName key = name) :
    ∃ rest, key.toList = name.toList ++ rest ∧ bracket? key = Bracket.read? rest := by
  unfold baseName at h
  split at h
  · rename_i base text hcut
    refine ⟨'[' :: text, ?_, ?_⟩
    · rw [← h, String.toList_ofList, Text.eq_append_of_cut? hcut]
    · rw [bracket?, hcut]
      rfl
  · rename_i hcut
    refine ⟨[], ?_, ?_⟩
    · rw [← h, List.append_nil]
    · rw [bracket?, hcut]
      rfl

theorem Bracket.ofText?_eq_some_iff {text : List Char} :
    Bracket.ofText? text = some bracket ↔
      ∃ tail, text = bracket.entry.toList ++ ']' :: tail ∧ ']' ∉ bracket.entry.toList ∧
        bracket.entry ≠ "" ∧ bracket.appends = !tail.isEmpty := by
  obtain ⟨entry, appends⟩ := bracket
  have hempty : entry ≠ "" ↔ entry.toList ≠ [] := not_congr String.toList_eq_nil_iff.symm
  simp only [hempty, ← and_assoc, ← Text.cut?_eq_some_iff]
  unfold Bracket.ofText?
  split
  · rename_i tail hcut
    simp +contextual [hcut]
  · rename_i before tail hbefore hcut
    simp only [hcut, Option.some.injEq, Bracket.mk.injEq, Prod.mk.injEq]
    constructor
    · rintro ⟨rfl, rfl⟩
      exact ⟨tail, ⟨⟨String.toList_ofList.symm, rfl⟩, by rwa [String.toList_ofList]⟩, rfl⟩
    · rintro ⟨_, ⟨⟨rfl, rfl⟩, -⟩, rfl⟩
      exact ⟨String.ofList_toList, rfl⟩
  · rename_i hcut
    simp [hcut]

/-- A key names an entry: behind the name the entry stands in brackets, up to the first closing
    one, and the value is appended if anything follows. -/
structure Names (name key : String) (bracket : Bracket) : Prop where
  key_eq : ∃ tail, key = name ++ "[" ++ bracket.entry ++ "]" ++ tail ∧
    (bracket.appends = true ↔ tail ≠ "")
  closed : ']' ∉ bracket.entry.toList
  nonempty : bracket.entry ≠ ""

theorem bracket?_eq_some_iff (h : baseName key = name) :
    bracket? key = some bracket ↔ Names name key bracket := by
  obtain ⟨rest, hkey, hread⟩ := exists_behind_name h
  rw [hread]
  constructor
  · intro hsome
    unfold Bracket.read? at hsome
    split at hsome
    · obtain ⟨tail, rfl, hclosed, hne, happends⟩ := Bracket.ofText?_eq_some_iff.1 hsome
      refine ⟨⟨String.ofList tail, ?_, ?_⟩, hclosed, hne⟩
      · rw [← String.toList_inj, hkey]
        simp
      · simp [happends]
    · cases hsome
  · rintro ⟨⟨tail, hkeyEq, happends⟩, hclosed, hne⟩
    have hrest : rest = '[' :: (bracket.entry.toList ++ ']' :: tail.toList) := by
      rw [hkeyEq] at hkey
      simpa using hkey.symm
    rw [hrest, Bracket.read?, Bracket.ofText?_eq_some_iff]
    refine ⟨tail.toList, rfl, hclosed, hne, ?_⟩
    rw [Bool.eq_iff_iff, happends]
    simp

theorem bracket?_eq_none_iff (h : baseName key = name) :
    bracket? key = none ↔ ¬ ∃ bracket, Names name key bracket := by
  rw [Option.eq_none_iff_forall_ne_some, not_exists]
  exact forall_congr' fun bracket => not_congr (bracket?_eq_some_iff h)

/-! ### Changing one entry of a table -/

namespace Table

variable {table : Table} {entry : String} {change : List String → List String}

theorem names_alter (table : Table) (entry : String) (change : List String → List String) :
    (table.alter entry change).names
      = if entry ∈ table.names then table.names else table.names ++ [entry] := by
  induction table with
  | nil => rfl
  | cons row rest ih =>
    obtain ⟨other, values⟩ := row
    have hnames : names ((other, values) :: rest) = other :: names rest := rfl
    by_cases hother : other = entry
    · simp [alter, hother, names]
    · have halter : names (alter entry change ((other, values) :: rest))
          = other :: names (alter entry change rest) := by
        rw [alter, if_neg hother]
        rfl
      rw [halter, ih, hnames]
      by_cases hmem : entry ∈ names rest
      · simp [hmem]
      · simp [hmem, Ne.symm hother]

/-- A row of a changed table has another name and stood there before, or it has the name and the
    changed values. -/
theorem mem_alter (hnodup : table.names.Nodup) {row : String × List String}
    (h : row ∈ table.alter entry change) :
    row.1 ≠ entry ∧ row ∈ table ∨
      row.1 = entry ∧ ((∃ values, (entry, values) ∈ table ∧ row.2 = change values) ∨
        entry ∉ table.names ∧ row.2 = change []) := by
  induction table with
  | nil =>
    rw [alter, List.mem_singleton] at h
    exact .inr ⟨by rw [h], .inr ⟨List.not_mem_nil, by rw [h]⟩⟩
  | cons first rest ih =>
    obtain ⟨other, values⟩ := first
    obtain ⟨hother, hrest⟩ := List.nodup_cons.1 hnodup
    rw [alter] at h
    split at h
    · rename_i heq
      subst heq
      rcases List.mem_cons.1 h with rfl | hmem
      · exact .inr ⟨rfl, .inl ⟨values, List.mem_cons_self, rfl⟩⟩
      · refine .inl ⟨?_, List.mem_cons_of_mem _ hmem⟩
        intro hname
        exact hother (List.mem_map.2 ⟨row, hmem, hname⟩)
    · rename_i hne
      rcases List.mem_cons.1 h with rfl | hmem
      · exact .inl ⟨hne, List.mem_cons_self⟩
      · rcases ih hrest hmem with ⟨hname, hold⟩ | ⟨hname, ⟨old, hold, hvalues⟩ | ⟨hnew, hvalues⟩⟩
        · exact .inl ⟨hname, List.mem_cons_of_mem _ hold⟩
        · exact .inr ⟨hname, .inl ⟨old, List.mem_cons_of_mem _ hold, hvalues⟩⟩
        · refine .inr ⟨hname, .inr ⟨?_, hvalues⟩⟩
          simp only [names, List.map_cons, List.mem_cons, not_or]
          exact ⟨Ne.symm hne, hnew⟩

end Table

/-! ### Entering values -/

theorem eraseDups_append_singleton (names : List String) (name : String) :
    (names ++ [name]).eraseDups
      = if name ∈ names then names.eraseDups else names.eraseDups ++ [name] := by
  rw [List.eraseDups_append]
  split
  · rename_i hmem
    have hnone : [name].removeAll names = [] := by
      rw [List.removeAll, List.filter_eq_nil_iff]
      simpa using hmem
    rw [hnone, List.eraseDups_nil, List.append_nil]
  · rename_i hnew
    have hone : [name].removeAll names = [name] := by
      rw [List.removeAll, List.filter_eq_self]
      simpa using hnew
    rw [hone, List.eraseDups_cons, List.filter_nil, List.eraseDups_nil]

/-- A value with the bracket under which it is given. -/
structure Given where
  bracket : Bracket
  value : String

/-- The values that count among those of an entry: the ones from the last replacing value on, or
    all of them if none replaces. -/
inductive Latest : List Given → List String → Prop where
  | since {before later : List Given} {given : Given} (replaces : given.bracket.appends = false)
      (appended : ∀ more ∈ later, more.bracket.appends = true) :
      Latest (before ++ given :: later) (given.value :: later.map Given.value)
  | all {given : List Given} (appended : ∀ more ∈ given, more.bracket.appends = true) :
      Latest given (given.map Given.value)

theorem Latest.append {given : List Given} {values : List String} (h : Latest given values)
    {more : Given} (happends : more.bracket.appends = true) :
    Latest (given ++ [more]) (values ++ [more.value]) := by
  have hlater : ∀ {later : List Given}, (∀ g ∈ later, g.bracket.appends = true) →
      ∀ g ∈ later ++ [more], g.bracket.appends = true := by
    intro later happended g hmem
    rcases List.mem_append.1 hmem with hmem | hmem
    · exact happended g hmem
    · rwa [List.mem_singleton.1 hmem]
  cases h with
  | @since before later last hreplaces happended =>
    have hvalues : last.value :: later.map Given.value ++ [more.value]
        = last.value :: (later ++ [more]).map Given.value := by
      rw [List.map_append]
      rfl
    rw [List.append_assoc, hvalues]
    exact .since hreplaces (hlater happended)
  | all happended =>
    have hvalues : given.map Given.value ++ [more.value] = (given ++ [more]).map Given.value := by
      rw [List.map_append]
      rfl
    rw [hvalues]
    exact .all (hlater happended)

theorem Latest.replace (given : List Given) {more : Given}
    (hreplaces : more.bracket.appends = false) : Latest (given ++ [more]) [more.value] :=
  .since hreplaces fun _ hmem => absurd hmem List.not_mem_nil

/-- A table lists what was given. -/
structure Lists (given : List Given) (table : Table) : Prop where
  /-- The entries stand in the order in which they were first given. -/
  names_eq : table.names = (given.map (·.bracket.entry)).eraseDups
  nodup : table.names.Nodup
  values : ∀ row ∈ table, Latest (given.filter (·.bracket.entry = row.1)) row.2
  nonempty : ∀ row ∈ table, row.2 ≠ []

theorem lists_nil : Lists [] [] where
  names_eq := rfl
  nodup := List.nodup_nil
  values _ hmem := absurd hmem List.not_mem_nil
  nonempty _ hmem := absurd hmem List.not_mem_nil

theorem Lists.notMem_names_iff {given : List Given} {table : Table} (h : Lists given table)
    {entry : String} :
    entry ∉ table.names ↔ given.filter (·.bracket.entry = entry) = [] := by
  rw [h.names_eq, List.mem_eraseDups, List.filter_eq_nil_iff]
  simp [List.mem_map]

/-- A value that is entered counts after those that counted before, or alone. -/
theorem Latest.enter {given : List Given} {values : List String} (h : Latest given values)
    (more : Given) :
    Latest (given ++ [more])
      (if more.bracket.appends then values ++ [more.value] else [more.value]) := by
  split
  · rename_i happends
    exact h.append happends
  · rename_i hreplaces
    exact .replace given (Bool.not_eq_true _ ▸ hreplaces)

/-- One more value is entered. -/
theorem Lists.enter {given : List Given} {table : Table} (h : Lists given table) (more : Given) :
    Lists (given ++ [more]) (table.enter more.bracket more.value) where
  names_eq := by
    have hmem : more.bracket.entry ∈ table.names ↔
        more.bracket.entry ∈ given.map (·.bracket.entry) := by
      rw [h.names_eq, List.mem_eraseDups]
    rw [Table.enter, Table.names_alter, List.map_append, List.map_singleton,
      eraseDups_append_singleton, ← h.names_eq]
    simp only [hmem]
  nodup := by
    rw [Table.enter, Table.names_alter]
    split
    · exact h.nodup
    · rename_i hnew
      refine List.nodup_append.2 ⟨h.nodup, List.pairwise_singleton _ _, ?_⟩
      intro name hmem other hother heq
      exact hnew (List.mem_singleton.1 hother ▸ heq ▸ hmem)
  values := by
    intro row hrow
    rw [List.filter_append]
    rcases Table.mem_alter h.nodup hrow with ⟨hother, hmem⟩ | ⟨hentry, hvalues⟩
    · have hnone : [more].filter (·.bracket.entry = row.1) = [] := by simp [Ne.symm hother]
      rw [hnone, List.append_nil]
      exact h.values row hmem
    · have hone : [more].filter (·.bracket.entry = row.1) = [more] := by simp [hentry]
      rw [hone]
      rcases hvalues with ⟨old, hmem, hvalues⟩ | ⟨hnew, hvalues⟩
      · have hold := h.values _ hmem
        rw [hvalues, hentry]
        exact hold.enter more
      · have hold : Latest (given.filter (·.bracket.entry = row.1)) [] := by
          rw [hentry, h.notMem_names_iff.1 hnew]
          exact .all fun _ hmem => absurd hmem List.not_mem_nil
        rw [hvalues]
        exact hold.enter more
  nonempty := by
    intro row hrow
    have hchange : ∀ values : List String,
        (if more.bracket.appends then values ++ [more.value] else [more.value]) ≠ [] := by
      intro values
      split <;> simp
    rcases Table.mem_alter h.nodup hrow with ⟨-, hmem⟩ | ⟨-, ⟨old, -, hvalues⟩ | ⟨-, hvalues⟩⟩
    · exact h.nonempty row hmem
    · exact hvalues ▸ hchange old
    · exact hvalues ▸ hchange []

/-! ### Entering all pairs of a name -/

/-- What a pair gives, when its key is read. -/
def Gives (pair : String × String) (given : Given) : Prop :=
  bracket? pair.1 = some given.bracket ∧ given.value = pair.2

theorem enterAll?_eq_none_iff {table : Table} {pairs : List (String × String)} :
    table.enterAll? pairs = none ↔ ∃ pair ∈ pairs, bracket? pair.1 = none := by
  induction pairs generalizing table with
  | nil => simp [Table.enterAll?]
  | cons pair rest ih =>
    obtain ⟨key, value⟩ := pair
    rw [Table.enterAll?]
    cases hbracket : bracket? key with
    | none => simp [hbracket]
    | some bracket => simp [hbracket, ih]

/-- Entering keeps that the table lists what was given. -/
theorem Lists.enterAll {given : List Given} {table entries : Table} (h : Lists given table)
    {pairs : List (String × String)} (hentries : table.enterAll? pairs = some entries) :
    ∃ more, List.Forall₂ Gives pairs more ∧ Lists (given ++ more) entries := by
  induction pairs generalizing given table with
  | nil =>
    cases hentries
    exact ⟨[], .nil, by rwa [List.append_nil]⟩
  | cons pair rest ih =>
    obtain ⟨key, value⟩ := pair
    obtain ⟨bracket, hbracket, hrest⟩ := Option.bind_eq_some_iff.1 hentries
    obtain ⟨more, hmore, hlists⟩ := ih (h.enter ⟨bracket, value⟩) hrest
    refine ⟨⟨bracket, value⟩ :: more, .cons ⟨hbracket, rfl⟩ hmore, ?_⟩
    rwa [List.append_assoc] at hlists

/-! ### Tables of entries -/

theorem pairsOf_eq_nil_iff {request : Request} :
    request.pairsOf name = [] ↔ ∀ pair ∈ request.pairs, baseName pair.1 ≠ name := by
  simp [pairsOf, List.filter_eq_nil_iff]

theorem map_eq_absent_iff {request : Request} :
    request.map name = .absent ↔ request.pairsOf name = [] := by
  unfold map
  split
  · rename_i hpairs
    exact iff_of_true rfl hpairs
  · rename_i hpairs
    refine iff_of_false ?_ hpairs
    split <;> exact Bracketed.noConfusion

theorem map_eq_malformed_iff {request : Request} :
    request.map name = .malformed ↔ Table.enterAll? [] (request.pairsOf name) = none := by
  unfold map
  split
  · rename_i hpairs
    simp [hpairs, Table.enterAll?]
  · split <;> simp_all

theorem map_eq_table_iff {request : Request} {table : Table} :
    request.map name = .table table ↔
      request.pairsOf name ≠ [] ∧ Table.enterAll? [] (request.pairsOf name) = some table := by
  unfold map
  split
  · rename_i hpairs
    simp [hpairs]
  · rename_i hpairs
    split <;> simp_all

/-- **Bracketed parameters list the values that count of each entry.**  A name without pairs is
    absent.  It is malformed as soon as a key of one of its pairs names no entry, and has a table
    as soon as all of them do: the table has the entries in the order of their first pairs, each
    once, with the values from its last replacing pair on.  Every key of the name is cut behind
    the octets of the name, so what stands there can be read, and pairs of other names play no
    part. -/
theorem map_lists_entries (request : Request) (name : String) :
    (request.map name = .absent ↔ ∀ pair ∈ request.pairs, baseName pair.1 ≠ name) ∧
    (request.map name = .malformed ↔
      ∃ pair ∈ request.pairs, baseName pair.1 = name ∧ ¬ ∃ bracket, Names name pair.1 bracket) ∧
    ((∃ table, request.map name = .table table) ↔
      (∃ pair ∈ request.pairs, baseName pair.1 = name) ∧
        ∀ pair ∈ request.pairs, baseName pair.1 = name → ∃ bracket, Names name pair.1 bracket) ∧
    (∀ table, request.map name = .table table →
      ∃ given, List.Forall₂ (fun pair given => Names name pair.1 given.bracket ∧
          given.value = pair.2) (request.pairsOf name) given ∧ Lists given table) ∧
    (∀ pair ∈ request.pairs, baseName pair.1 = name →
      ∃ rest, behind? (Url.encode name.toList).length pair.1.toList = some rest ∧
        bracket? pair.1 = Bracket.read? rest) ∧
    ∀ other : Request, other.pairsOf name = request.pairsOf name →
      other.map name = request.map name := by
  have hnone : ∀ pair : String × String, baseName pair.1 = name →
      (bracket? pair.1 = none ↔ ¬ ∃ bracket, Names name pair.1 bracket) :=
    fun _ => bracket?_eq_none_iff
  have hmem : ∀ pair, pair ∈ request.pairsOf name ↔
      pair ∈ request.pairs ∧ baseName pair.1 = name := by
    intro pair
    rw [pairsOf, List.mem_filter, beq_iff_eq]
  refine ⟨map_eq_absent_iff.trans pairsOf_eq_nil_iff, ?_, ?_, ?_, ?_, fun _ => map_congr⟩
  · rw [map_eq_malformed_iff, enterAll?_eq_none_iff]
    refine exists_congr fun pair => ?_
    rw [hmem, and_assoc]
    exact and_congr_right fun _ => and_congr_right (hnone pair)
  · simp only [map_eq_table_iff, exists_and_left, ← Option.ne_none_iff_exists', Ne,
      enterAll?_eq_none_iff, pairsOf_eq_nil_iff]
    push Not
    refine and_congr_right fun _ => forall_congr' fun pair => ?_
    rw [hmem, and_imp]
    refine imp_congr_right fun _ => imp_congr_right fun hname => ?_
    rw [Ne, hnone pair hname, not_not]
  · intro table htable
    obtain ⟨more, hmore, hlists⟩ := lists_nil.enterAll (map_eq_table_iff.1 htable).2
    have hnamed : ∀ pair ∈ request.pairsOf name, baseName pair.1 = name :=
      fun pair hpair => ((hmem pair).1 hpair).2
    refine ⟨more, ?_, hlists⟩
    refine ((List.forall₂_and_left _ _).2 ⟨hnamed, hmore⟩).imp ?_
    rintro pair given ⟨hname, hbracket, hvalue⟩
    exact ⟨(bracket?_eq_some_iff hname).1 hbracket, hvalue⟩
  · intro pair _ hname
    obtain ⟨rest, hkey, hread⟩ := exists_behind_name hname
    exact ⟨rest, hkey ▸ behind?_append name.toList rest, hread⟩

/-- Values before the last replacing one are forgotten, but the entry keeps its place. -/
example :
    let request : Request := ⟨"/parcels", [("filters[size][]", "gt:1"), ("filters[ö]", "eq:2"),
      ("filters", "x"), ("filters[size]", "lt:3"), ("filters[size][0]", "ne:2")]⟩
    request.map "filters" = .malformed ∧
      ({ request with pairs := request.pairs.eraseIdx 2 }).map "filters"
        = .table [("size", ["lt:3", "ne:2"]), ("ö", ["eq:2"])] := by
  decide +kernel

end Request

end Listing
