/-
  Listing/Proofs/Narrowing.lean
  =============================
  **A source in memory after any calls.**

  Filters, sort keys and fetches may come in any order, and a filter may be
  refused.  Whatever came, the entries are the items that the source was made of,
  and the view is what every accepted filter lets pass, in the order of the source
  (`Represents`).  Nothing in this description knows in which order the view was
  narrowed, so runs with the same accepted filters and the same sort keys lead to
  the same source (`run_congr`).
-/
import Listing.Proofs.Meaning

namespace Listing

variable {σ ι : Type}

/-! ### Calls on a source -/

namespace Source

/-- One call on a source. -/
inductive Command where
  | filter (field : String) (kind : ValueKind) (op : Operator) (params : List String)
  | sort (field : String) (direction : Direction)
  | fetch (limit offset : Nat)
deriving DecidableEq, Repr

/-- The sort key that a call adds. -/
def Command.sortKey? : Command → Option (String × Direction)
  | .sort field direction => some (field, direction)
  | .filter .. | .fetch .. => none

section Commands

variable [Source σ ι]

/-- Make a call; only a fetch gives a page. -/
def perform : Command → Action σ (Option (Page ι))
  | .filter field kind op params =>
    (Source.addFilter field kind op params).bind fun _ => .pure none
  | .sort field direction => (Source.addSort field direction).bind fun _ => .pure none
  | .fetch limit offset => (Source.fetch limit offset).bind fun page => .pure (some page)

/-- The source after calls, whether they failed or not. -/
def run (commands : List Command) (source : σ) : σ :=
  commands.foldl (fun current command => (perform command current).state) source

/-- The calls of a run that do not fail, in their order. -/
def succeeded : List Command → σ → List Command
  | [], _ => []
  | command :: rest, source =>
    let later := succeeded rest (perform command source).state
    match (perform command source).result with
    | .ok _ => command :: later
    | .error _ => later

/-- What a property of sources and of the calls that succeeded so far says holds after a run,
    if every call keeps it. -/
theorem run_succeeded {P : List Command → σ → Prop}
    (hok : ∀ done source command answer, P done source →
      (perform command source).result = .ok answer →
      P (done ++ [command]) (perform command source).state)
    (herror : ∀ done source command error, P done source →
      (perform command source).result = .error error → P done (perform command source).state)
    (commands : List Command) (done : List Command) {source : σ} (h : P done source) :
    P (done ++ succeeded commands source) (run commands source) := by
  induction commands generalizing done source with
  | nil =>
    rw [succeeded, List.append_nil]
    exact h
  | cons command rest ih =>
    rw [succeeded]
    cases hr : (perform command source).result with
    | ok answer =>
      have hrest := ih (done ++ [command]) (hok done source command answer h hr)
      rw [List.append_assoc] at hrest
      exact hrest
    | error error => exact ih done (herror done source command error h hr)

/-- Nothing is left out of a run of calls that never fail. -/
theorem succeeded_eq_self {commands : List Command}
    (h : ∀ command ∈ commands, ∀ source : σ, ∃ answer, (perform command source).result = .ok answer)
    (source : σ) : succeeded commands source = commands := by
  induction commands generalizing source with
  | nil => rfl
  | cons command rest ih =>
    obtain ⟨hfirst, hrest⟩ := List.forall_mem_cons.1 h
    obtain ⟨answer, hanswer⟩ := hfirst source
    rw [succeeded, hanswer, ih hrest]

end Commands

end Source

/-! ### Parameters that a predicate needs -/

/-- The least number of parameters with which an operator can be applied. -/
def Operator.least (op : Operator) : Nat :=
  match op.arity with
  | .zero => 0
  | .one | .unlimited => 1
  | .two => 2

namespace Memory

open Assembly (parcel)
open Source (Command perform run succeeded)

/-- A predicate is made of an operator exactly when no parameter is missing. -/
theorem exists_predicate_iff {op : Operator} {params : List String} :
    (∃ holds, predicate op params = .ok holds) ↔ op.least ≤ params.length := by
  cases op with
  | empty | notEmpty => exact ⟨fun _ => Nat.zero_le _, fun _ => ⟨_, rfl⟩⟩
  | between | notBetween =>
    rcases params with _ | ⟨low, _ | ⟨high, rest⟩⟩
    · exact ⟨by rintro ⟨_, ⟨⟩⟩, fun h => absurd h (by decide)⟩
    · exact ⟨by rintro ⟨_, ⟨⟩⟩, fun h => absurd h (by decide : ¬ 2 ≤ 1)⟩
    · exact ⟨fun _ => Nat.le_add_left 2 rest.length, fun _ => ⟨_, rfl⟩⟩
  | _ =>
    rcases params with _ | ⟨first, rest⟩
    · exact ⟨by rintro ⟨_, ⟨⟩⟩, fun h => absurd h (by decide)⟩
    · exact ⟨fun _ => Nat.le_add_left 1 rest.length, fun _ => ⟨_, rfl⟩⟩

/-! ### Filters that were accepted -/

/-- What a filter tests; the kind of its values plays no part in memory. -/
structure Test where
  field : String
  op : Operator
  params : List String
deriving DecidableEq, Repr

/-- Whether the value of the field satisfies the predicate; nothing satisfies a predicate that
    cannot be made. -/
def Test.passes (test : Test) (item : Json) : Bool :=
  match predicate test.op test.params with
  | .ok holds => holds (valueAt item test.field)
  | .error _ => false

/-- The test of a call that filters. -/
def test? : Command → Option Test
  | .filter field _ op params => some ⟨field, op, params⟩
  | .sort .. | .fetch .. => none

/-- The tests of the filters that were accepted in a run. -/
def acceptedTests (commands : List Command) (memory : Memory ι) : List Test :=
  (succeeded commands memory).filterMap test?

/-! ### One call -/

theorem perform_filter_ok {op : Operator} {params : List String} {holds : Predicate}
    (h : predicate op params = .ok holds) (field : String) (kind : ValueKind) (memory : Memory ι) :
    perform (.filter field kind op params) memory
      = ⟨memory.retain fun item => holds (valueAt item field), [], .ok none⟩ := by
  rw [perform, Action.bind, addFilter_of_predicate h]
  rfl

theorem perform_filter_error {op : Operator} {params : List String} {error : Error}
    (h : predicate op params = .error error) (field : String) (kind : ValueKind)
    (memory : Memory ι) :
    perform (.filter field kind op params) memory = ⟨memory, [], .error error⟩ := by
  have hadd : (Source.addFilter field kind op params : Action (Memory ι) Unit) memory
      = ⟨memory, [], .error error⟩ := by
    change addFilter field op params memory = _
    rw [addFilter, h]
  rw [perform, Action.bind, hadd]

theorem perform_sort (field : String) (direction : Direction) (memory : Memory ι) :
    perform (.sort field direction) memory
      = ⟨{ memory with sortKeys := memory.sortKeys ++ [(field, direction)] }, [], .ok none⟩ :=
  rfl

theorem state_perform_fetch (limit offset : Nat) (memory : Memory ι) :
    (perform (.fetch limit offset) memory).state = memory := rfl

theorem result_perform_fetch (limit offset : Nat) (memory : Memory ι) :
    (perform (.fetch limit offset) memory).result = .ok (some (memory.page limit offset)) := rfl

/-- A call that fails leaves the source as it was. -/
theorem state_perform_of_error {command : Command} {memory : Memory ι} {error : Error}
    (h : (perform command memory).result = .error error) :
    (perform command memory).state = memory := by
  cases command with
  | filter field kind op params =>
    cases hpredicate : predicate op params with
    | ok holds =>
      rw [perform_filter_ok hpredicate] at h
      cases h
    | error _ => rw [perform_filter_error hpredicate]
  | sort field direction =>
    rw [perform_sort] at h
    cases h
  | fetch limit offset => rfl

/-- Only filters fail. -/
theorem sortKey?_of_error {command : Command} {memory : Memory ι} {error : Error}
    (h : (perform command memory).result = .error error) : command.sortKey? = none := by
  cases command with
  | filter field kind op params => rfl
  | sort field direction =>
    rw [perform_sort] at h
    cases h
  | fetch limit offset => rfl

theorem filter_succeeds_iff {field : String} {kind : ValueKind} {op : Operator}
    {params : List String} {memory : Memory ι} :
    (perform (.filter field kind op params) memory).result = .ok none ↔
      op.least ≤ params.length := by
  rw [← exists_predicate_iff]
  cases hpredicate : predicate op params with
  | ok holds =>
    rw [perform_filter_ok hpredicate]
    exact ⟨fun _ => ⟨holds, rfl⟩, fun _ => rfl⟩
  | error error =>
    rw [perform_filter_error hpredicate]
    constructor
    · intro h
      cases h
    · rintro ⟨_, ⟨⟩⟩

/-- A source in memory that shows all its entries. -/
def ofEntries (entries : List (Entry ι)) : Memory ι := ⟨entries, entries, []⟩

/-- A source in memory takes a filter and keeps an entry in view. -/
def Keeps (memory : Memory ι) (filter : Command) (entry : Entry ι) : Prop :=
  (perform filter memory).result = .ok none ∧ entry ∈ (perform filter memory).state.view

/-- A source in memory takes a filter, and an entry is not in view after it. -/
def Drops (memory : Memory ι) (filter : Command) (entry : Entry ι) : Prop :=
  (perform filter memory).result = .ok none ∧ entry ∉ (perform filter memory).state.view

section Kept

variable {op : Operator} {params : List String} {holds : Predicate} {memory : Memory ι}
  {entry : Entry ι}

theorem keeps_filter_iff (h : predicate op params = .ok holds) (hentry : entry ∈ memory.view)
    (field : String) (kind : ValueKind) :
    memory.Keeps (.filter field kind op params) entry ↔
      holds (valueAt entry.value field) = true := by
  simp [Keeps, perform_filter_ok h, retain, hentry]

theorem drops_filter_iff (h : predicate op params = .ok holds) (hentry : entry ∈ memory.view)
    (field : String) (kind : ValueKind) :
    memory.Drops (.filter field kind op params) entry ↔
      holds (valueAt entry.value field) = false := by
  simp [Drops, perform_filter_ok h, retain, hentry]

end Kept

/-! ### Any calls -/

/-- The source at the start, with the view cut to what passes the tests and with further sort
    keys. -/
structure Narrowed (start : Memory ι) (tests : List Test) (keys : List (String × Direction))
    (memory : Memory ι) : Prop where
  entries_eq : memory.entries = start.entries
  view_eq : memory.view
    = start.view.filter fun entry => tests.all fun test => test.passes entry.value
  sortKeys_eq : memory.sortKeys = start.sortKeys ++ keys

theorem narrowed_refl (start : Memory ι) : Narrowed start [] [] start :=
  ⟨rfl, (List.filter_eq_self.2 fun _ _ => rfl).symm, (List.append_nil _).symm⟩

theorem Narrowed.retain {start : Memory ι} {tests : List Test}
    {keys : List (String × Direction)} {memory : Memory ι} (h : Narrowed start tests keys memory)
    (test : Test) : Narrowed start (tests ++ [test]) keys (memory.retain test.passes) := by
  refine ⟨h.entries_eq, ?_, h.sortKeys_eq⟩
  have hview : (memory.retain test.passes).view
      = memory.view.filter fun entry => test.passes entry.value := rfl
  rw [hview, h.view_eq, List.filter_filter]
  refine List.filter_congr ?_
  intro entry _
  rw [List.all_append, Bool.and_comm, List.all_cons, List.all_nil, Bool.and_true]

/-- What a call that succeeds adds: at most one test, at most one sort key. -/
theorem Narrowed.perform {start : Memory ι} {tests : List Test}
    {keys : List (String × Direction)} {memory : Memory ι} (h : Narrowed start tests keys memory)
    {command : Command} {answer : Option (Page ι)}
    (hok : (Source.perform command memory).result = .ok answer) :
    Narrowed start (tests ++ (test? command).toList) (keys ++ command.sortKey?.toList)
      (Source.perform command memory).state := by
  cases command with
  | filter field kind op params =>
    cases hpredicate : predicate op params with
    | ok holds =>
      have hpasses : (fun item => holds (valueAt item field))
          = Test.passes ⟨field, op, params⟩ := by
        funext item
        simp only [Test.passes, hpredicate]
      rw [perform_filter_ok hpredicate, hpasses, Command.sortKey?, Option.toList_none,
        List.append_nil]
      exact h.retain ⟨field, op, params⟩
    | error error =>
      rw [perform_filter_error hpredicate] at hok
      cases hok
  | sort field direction =>
    rw [perform_sort]
    refine ⟨h.entries_eq, ?_, ?_⟩
    · exact h.view_eq.trans (by rw [test?, Option.toList_none, List.append_nil])
    · exact (congrArg (· ++ [(field, direction)]) h.sortKeys_eq).trans (List.append_assoc ..)
  | fetch limit offset =>
    have htests : tests ++ (test? (.fetch limit offset)).toList = tests := List.append_nil _
    have hkeys : keys ++ (Command.fetch limit offset).sortKey?.toList = keys := List.append_nil _
    rw [state_perform_fetch, htests, hkeys]
    exact h

theorem narrowed_run (start : Memory ι) (commands : List Command) :
    Narrowed start (acceptedTests commands start)
      ((succeeded commands start).filterMap Command.sortKey?) (run commands start) := by
  refine Source.run_succeeded (P := fun done memory =>
    Narrowed start (done.filterMap test?) (done.filterMap Command.sortKey?) memory) ?_ ?_
    commands [] (narrowed_refl start)
  · intro done memory command answer h hok
    rw [List.filterMap_append, List.filterMap_append]
    exact h.perform hok
  · intro done memory command error h herror
    rw [state_perform_of_error herror]
    exact h

theorem mem_view_run {memory : Memory ι} {commands : List Command} {entry : Entry ι} :
    entry ∈ (run commands memory).view ↔
      entry ∈ memory.view ∧
        ∀ test ∈ acceptedTests commands memory, test.passes entry.value = true := by
  rw [(narrowed_run memory commands).view_eq, List.mem_filter, List.all_eq_true]

/-- Every sort key is taken, so a run has those of all its commands. -/
theorem sortKeys_succeeded (commands : List Command) (memory : Memory ι) :
    (succeeded commands memory).filterMap Command.sortKey?
      = commands.filterMap Command.sortKey? := by
  induction commands generalizing memory with
  | nil => rfl
  | cons command rest ih =>
    rw [succeeded]
    cases hr : (perform command memory).result with
    | ok answer => simp only [List.filterMap_cons, ih]
    | error error => simp only [List.filterMap_cons, sortKey?_of_error hr, ih]

/-- Runs with the same accepted filters and the same sort keys lead to the same source. -/
theorem run_congr (start : Memory ι) {commands others : List Command}
    (htests : ∀ test, test ∈ acceptedTests others start ↔ test ∈ acceptedTests commands start)
    (hkeys : others.filterMap Command.sortKey? = commands.filterMap Command.sortKey?) :
    run others start = run commands start := by
  have hother := narrowed_run start others
  have hthis := narrowed_run start commands
  rw [sortKeys_succeeded] at hother hthis
  have hview : (run others start).view = (run commands start).view := by
    rw [hother.view_eq, hthis.view_eq]
    refine List.filter_congr ?_
    intro entry _
    rw [Bool.eq_iff_iff, List.all_eq_true, List.all_eq_true]
    exact forall_congr' fun test => imp_congr_left (htests test)
  have hentries := hother.entries_eq.trans hthis.entries_eq.symm
  have hsort : (run others start).sortKeys = (run commands start).sortKeys := by
    rw [hother.sortKeys_eq, hthis.sortKeys_eq, hkeys]
  generalize run others start = left at hview hentries hsort ⊢
  generalize run commands start = right at hview hentries hsort ⊢
  cases left
  cases right
  cases hview
  cases hentries
  cases hsort
  rfl

/-! ### What a source in memory stands for -/

theorem mem_numbered_iff {rows : List (ι × Json)} {entry : Entry ι} :
    entry ∈ numbered rows ↔ rows[entry.position]? = some entry.row := by
  rw [numbered, List.mem_map]
  constructor
  · rintro ⟨⟨row, position⟩, hmem, rfl⟩
    exact List.mem_zipIdx_iff_getElem?.1 hmem
  · intro h
    exact ⟨(entry.row, entry.position), List.mem_zipIdx_iff_getElem?.2 h, rfl⟩

theorem pairwise_numbered (rows : List (ι × Json)) :
    (numbered rows).Pairwise fun x y => x.position < y.position := by
  have hpositions : (rows.zipIdx.map Prod.snd).Pairwise (· < ·) := by
    rw [List.zipIdx_map_snd]
    exact List.pairwise_lt_range'
  exact List.pairwise_map.2 (List.pairwise_map.1 hpositions)

/-- The source has the items, each with its JSON form, and shows those that pass the tests. -/
structure Represents (rows : List (ι × Json)) (tests : List Test)
    (keys : List (String × Direction)) (memory : Memory ι) : Prop where
  /-- The items are never changed. -/
  items : memory.entries = numbered rows
  increasing : memory.view.Pairwise fun x y => x.position < y.position
  /-- The view has exactly the places of the items whose JSON form passes every test. -/
  mem_view : ∀ entry, entry ∈ memory.view ↔
    rows[entry.position]? = some entry.row ∧ ∀ test ∈ tests, test.passes entry.value = true
  sortKeys : memory.sortKeys = keys

theorem Narrowed.represents {rows : List (ι × Json)} {tests : List Test}
    {keys : List (String × Direction)} {memory : Memory ι}
    (h : Narrowed ⟨numbered rows, numbered rows, []⟩ tests keys memory) :
    Represents rows tests keys memory := by
  refine ⟨h.entries_eq, ?_, ?_, h.sortKeys_eq⟩
  · rw [h.view_eq]
    exact (pairwise_numbered rows).filter _
  · intro entry
    rw [h.view_eq, List.mem_filter, mem_numbered_iff, List.all_eq_true]

/-- How the source answers a further call. -/
structure Responds (memory : Memory ι) : Prop where
  /-- A filter is refused only when a parameter is missing. -/
  accepts : ∀ field kind op params,
    (perform (.filter field kind op params) memory).result = .ok none ↔ op.least ≤ params.length
  /-- A call that fails changes nothing. -/
  refused : ∀ command error, (perform command memory).result = .error error →
    (perform command memory).state = memory
  /-- A fetch changes nothing and counts the whole view. -/
  fetched : ∀ limit offset, (perform (.fetch limit offset) memory).state = memory ∧
    ∃ page, (perform (.fetch limit offset) memory).result = .ok (some page) ∧
      page.total = memory.view.length

theorem responds (memory : Memory ι) : Responds memory where
  accepts _ _ _ _ := filter_succeeds_iff
  refused _ _ := state_perform_of_error
  fetched limit offset :=
    ⟨state_perform_fetch limit offset memory, memory.page limit offset,
      result_perform_fetch limit offset memory, rfl⟩

/-- **A source in memory shows what its filters let pass.**  After any calls in any order it
    has the items that it was made of, and its view are the places of those that pass every
    accepted filter.  Runs with the same accepted filters, in whatever order and however often,
    and the same sort keys in the same order give the same pages. -/
theorem run_represents [Representable ι] {rows : List (ι × Json)}
    (hrows : ∀ row ∈ rows, Representable.serialise row.1 = .ok row.2) :
    ∃ memory, ofItems (rows.map Prod.fst) = .ok memory ∧ ∀ commands : List Command,
      Represents rows (acceptedTests commands memory) (commands.filterMap Command.sortKey?)
        (run commands memory) ∧
      Responds (run commands memory) ∧
      ∀ others, (∀ test, test ∈ acceptedTests others memory ↔
          test ∈ acceptedTests commands memory) →
        others.filterMap Command.sortKey? = commands.filterMap Command.sortKey? →
        ∀ limit offset, (perform (.fetch limit offset) (run others memory)).result
          = (perform (.fetch limit offset) (run commands memory)).result := by
  refine ⟨_, ofItems_eq_numbered hrows, ?_⟩
  intro commands
  refine ⟨?_, responds _, ?_⟩
  · have hnarrowed := narrowed_run ⟨numbered rows, numbered rows, []⟩ commands
    rw [sortKeys_succeeded] at hnarrowed
    exact hnarrowed.represents
  · intro others htests hkeys limit offset
    rw [run_congr _ htests hkeys]

/-- Three parcels, each with its JSON form. -/
def parcelRows : List (Row × Json) :=
  [parcel 4 "red", parcel 7 "red", parcel 2 "blue"].map fun row => (row, row.value)

theorem serialise_parcelRows : ∀ row ∈ parcelRows, Representable.serialise row.1 = .ok row.2 := by
  intro row hmem
  obtain ⟨item, hitem, rfl⟩ := List.mem_map.1 hmem
  simp only [List.mem_cons, List.not_mem_nil, or_false] at hitem
  rcases hitem with rfl | rfl | rfl <;> rfl

/-- Two filters in both orders around a sort key; one of them is repeated in the second run, and
    one call of the first run is refused.  The first and the last parcel are left, and the smaller
    one comes first. -/
theorem parcels_represented :
    let commands : List Command := [.filter "size" .integer .lt ["5"], .sort "size" .asc,
      .filter "size" .integer .between ["1"], .filter "colour" .text .ne ["green"]]
    let others : List Command := [.filter "colour" .text .ne ["green"], .fetch 2 0,
      .filter "size" .integer .lt ["5"], .filter "colour" .text .ne ["green"], .sort "size" .asc]
    ∃ memory, ofItems (parcelRows.map Prod.fst) = .ok memory ∧
      Represents parcelRows [⟨"size", .lt, ["5"]⟩, ⟨"colour", .ne, ["green"]⟩] [("size", .asc)]
        (run commands memory) ∧
      (run commands memory).view.map Entry.position = [0, 2] ∧
      (∃ page, (perform (.fetch 2 0) (run commands memory)).result = .ok (some page) ∧
        page.total = 2 ∧ page.items.map (fun item => item.value.text)
          = ["\x7b\"size\":2,\"colour\":\"blue\"\x7d".toList,
            "\x7b\"size\":4,\"colour\":\"red\"\x7d".toList]) ∧
      ∀ limit offset, (perform (.fetch limit offset) (run others memory)).result
        = (perform (.fetch limit offset) (run commands memory)).result := by
  intro commands others
  obtain ⟨memory, hmemory, h⟩ := run_represents serialise_parcelRows
  cases hmemory.symm.trans (ofItems_eq_numbered serialise_parcelRows)
  obtain ⟨hrepresents, -, hothers⟩ := h commands
  refine ⟨_, hmemory, hrepresents, by decide +kernel,
    ⟨_, result_perform_fetch 2 0 _, by decide +kernel, by decide +kernel⟩, hothers others ?_ rfl⟩
  have haccepted : acceptedTests commands (⟨numbered parcelRows, numbered parcelRows, []⟩ :
      Memory Row) = [⟨"size", .lt, ["5"]⟩, ⟨"colour", .ne, ["green"]⟩] := rfl
  have hother : acceptedTests others (⟨numbered parcelRows, numbered parcelRows, []⟩ :
      Memory Row) = [⟨"colour", .ne, ["green"]⟩, ⟨"size", .lt, ["5"]⟩,
        ⟨"colour", .ne, ["green"]⟩] := rfl
  intro test
  rw [haccepted, hother]
  simp only [List.mem_cons, List.not_mem_nil, or_false]
  tauto

end Memory

end Listing
