/-
  Listing/Proofs/TableRuns.lean
  =============================
  **A source over a table after any calls.**

  Whatever is called, and whatever the database answers, the source keeps the query that
  it begins with, and its conditions and sort keys only grow: by the condition of each
  filter that is accepted, and by each sort key (`extends_run`).  A fetch changes nothing
  but the database, which it sends the count first and the page only after a number
  (`fetch_sends`).
-/
import Listing.Proofs.Narrowing
import Listing.Relational.Source

namespace Listing.Relational

open Source (Command perform run succeeded)
open Sql (Expr Statement)

variable {ι : Type}

/-! ### Filters and sort keys -/

/-- The condition that a call adds. -/
def condition? : Command → Option Expr
  | .filter field kind op params => (condition field kind op params).toOption
  | .sort .. | .fetch .. => none

theorem condition?_filter_ok {field : String} {kind : ValueKind} {op : Operator}
    {params : List String} {e : Expr} (h : condition field kind op params = .ok e) :
    condition? (.filter field kind op params) = some e := by
  rw [condition?, h]
  rfl

theorem condition?_filter_error {field : String} {kind : ValueKind} {op : Operator}
    {params : List String} {error : Error} (h : condition field kind op params = .error error) :
    condition? (.filter field kind op params) = none := by
  rw [condition?, h]
  rfl

theorem perform_filter_ok {field : String} {kind : ValueKind} {op : Operator}
    {params : List String} {e : Expr} (h : condition field kind op params = .ok e)
    (source : Relational ι) :
    perform (.filter field kind op params) source
      = ⟨{ source with conditions := source.conditions ++ [e] }, [], .ok none⟩ := by
  rw [perform, Action.bind, addFilter_of_condition h]
  rfl

theorem perform_filter_error {field : String} {kind : ValueKind} {op : Operator}
    {params : List String} {error : Error} (h : condition field kind op params = .error error)
    (source : Relational ι) :
    perform (.filter field kind op params) source = ⟨source, [], .error error⟩ := by
  have hadd : (Source.addFilter field kind op params : Action (Relational ι) Unit) source
      = ⟨source, [], .error error⟩ := by
    change addFilter field kind op params source = _
    rw [addFilter, h]
  rw [perform, Action.bind, hadd]

theorem perform_sort (field : String) (direction : Direction) (source : Relational ι) :
    perform (.sort field direction) source
      = ⟨{ source with order := source.order ++ [orderKey (field, direction)] }, [], .ok none⟩ :=
  rfl

/-! ### Fetching -/

/-- The database after the count was sent. -/
def counted (source : Relational ι) : Database ι × Reply ι :=
  source.database.send source.select.count

/-- The database after the page was sent too. -/
def paged (limit offset : Nat) (source : Relational ι) : Database ι × Reply ι :=
  source.counted.1.send (source.pageSelect limit offset).statement

section Fetching

variable {limit offset : Nat} {source : Relational ι}

theorem perform_fetch_of_error {error : Error}
    (h : Database.countOf source.counted.2 = .error error) :
    perform (.fetch limit offset) source
      = ⟨{ source with database := source.counted.1 }, [], .error error⟩ := by
  have hfetch : (Source.fetch limit offset : Action (Relational ι) (Page ι)) source
      = ⟨{ source with database := source.counted.1 }, [], .error error⟩ := by
    simp only [counted] at h
    simp only [Source.fetch, fetch, bind, Action.bind, send, Action.ofExcept, h, counted,
      List.append_nil]
  rw [perform, Action.bind, hfetch]

/-- After a number the page is sent, whose answer decides the result. -/
theorem fetch_of_ok {total : Nat} (h : Database.countOf source.counted.2 = .ok total) :
    (Source.fetch limit offset source).state
        = { source with database := (source.paged limit offset).1 } ∧
      (Source.fetch limit offset source).result
        = (Database.rowsOf source.columns (source.paged limit offset).2).map
            fun items => ⟨items, total⟩ := by
  simp only [counted] at h
  simp only [Source.fetch, fetch, bind, Action.bind, send, Action.ofExcept, h, paged, counted]
  cases Database.rowsOf source.columns _ <;> exact ⟨rfl, rfl⟩

theorem state_perform_fetch_of_ok {total : Nat}
    (h : Database.countOf source.counted.2 = .ok total) :
    (perform (.fetch limit offset) source).state
      = { source with database := (source.paged limit offset).1 } := by
  rw [perform, Action.state_bind_pure, (fetch_of_ok h).1]

theorem result_perform_fetch_of_ok {total : Nat}
    (h : Database.countOf source.counted.2 = .ok total) :
    (perform (.fetch limit offset) source).result
      = ((Database.rowsOf source.columns (source.paged limit offset).2).map
          fun items => ⟨items, total⟩).map some := by
  rw [perform, Action.result_bind_pure, (fetch_of_ok h).2]

theorem executed_send (statement : Statement) (database : Database ι) :
    (database.send statement).1.executed = database.executed ++ [statement] := by
  unfold Database.send
  split <;> rfl

/-- What a fetch sends: the count, and after a number the page. -/
theorem fetch_sends (limit offset : Nat) (source : Relational ι) :
    ∃ sent, (perform (.fetch limit offset) source).state.database.executed
        = source.database.executed ++ sent ∧
      ((∃ total, Database.countOf source.counted.2 = .ok total) ∧
          sent = [source.select.count, (source.pageSelect limit offset).statement] ∨
        (∃ error, (perform (.fetch limit offset) source).result = .error error) ∧
          sent = [source.select.count]) := by
  cases h : Database.countOf source.counted.2 with
  | ok total =>
    refine ⟨_, ?_, .inl ⟨⟨total, rfl⟩, rfl⟩⟩
    rw [state_perform_fetch_of_ok h]
    simp only [paged, counted, executed_send, List.append_assoc, List.cons_append, List.nil_append]
  | error error =>
    refine ⟨_, ?_, .inr ⟨⟨error, ?_⟩, rfl⟩⟩
    · rw [perform_fetch_of_error h]
      simp only [counted, executed_send]
    · rw [perform_fetch_of_error h]

/-- A fetch changes nothing but the database. -/
theorem exists_state_perform_fetch (limit offset : Nat) (source : Relational ι) :
    ∃ database, (perform (.fetch limit offset) source).state
      = { source with database := database } := by
  cases h : Database.countOf source.counted.2 with
  | ok total => exact ⟨_, state_perform_fetch_of_ok h⟩
  | error error => exact ⟨_, by rw [perform_fetch_of_error h]⟩

end Fetching

/-! ### Any calls -/

/-- The source at the start, with further conditions and sort keys, and any database. -/
structure Extends (start : Relational ι) (conditions : List Expr)
    (keys : List (String × Direction)) (source : Relational ι) : Prop where
  base_eq : source.base = start.base
  conditions_eq : source.conditions = start.conditions ++ conditions
  order_eq : source.order = start.order ++ keys.map orderKey

theorem extends_refl (start : Relational ι) : Extends start [] [] start :=
  ⟨rfl, (List.append_nil _).symm, (List.append_nil _).symm⟩

/-- What a call adds: at most one condition, at most one sort key. -/
theorem Extends.perform {start : Relational ι} {conditions : List Expr}
    {keys : List (String × Direction)} {source : Relational ι}
    (h : Extends start conditions keys source) (command : Command) :
    Extends start (conditions ++ (condition? command).toList)
      (keys ++ command.sortKey?.toList) (Source.perform command source).state := by
  cases command with
  | filter field kind op params =>
    have hkeys : keys ++ (Command.filter field kind op params).sortKey?.toList = keys :=
      List.append_nil _
    rw [hkeys]
    cases hcondition : condition field kind op params with
    | ok e =>
      rw [perform_filter_ok hcondition, condition?_filter_ok hcondition]
      refine ⟨h.base_eq, ?_, h.order_eq⟩
      exact (congrArg (· ++ [e]) h.conditions_eq).trans (List.append_assoc ..)
    | error error =>
      rw [perform_filter_error hcondition, condition?_filter_error hcondition, Option.toList_none,
        List.append_nil]
      exact h
  | sort field direction =>
    have hadded : conditions ++ (condition? (.sort field direction)).toList = conditions :=
      List.append_nil _
    rw [perform_sort, hadded]
    have hkeys : (keys ++ [(field, direction)]).map orderKey
        = keys.map orderKey ++ [orderKey (field, direction)] := List.map_append
    refine ⟨h.base_eq, h.conditions_eq, ?_⟩
    rw [h.order_eq, Command.sortKey?, Option.toList_some, hkeys, List.append_assoc]
  | fetch limit offset =>
    have hadded : conditions ++ (condition? (.fetch limit offset)).toList = conditions :=
      List.append_nil _
    have hkeys : keys ++ (Command.fetch limit offset).sortKey?.toList = keys := List.append_nil _
    obtain ⟨database, hstate⟩ := exists_state_perform_fetch limit offset source
    rw [hstate, hadded, hkeys]
    exact ⟨h.base_eq, h.conditions_eq, h.order_eq⟩

theorem Extends.run {start : Relational ι} {conditions : List Expr}
    {keys : List (String × Direction)} {source : Relational ι}
    (h : Extends start conditions keys source) (commands : List Command) :
    Extends start (conditions ++ commands.filterMap condition?)
      (keys ++ commands.filterMap Command.sortKey?) (Source.run commands source) := by
  induction commands generalizing conditions keys source with
  | nil =>
    rw [List.filterMap_nil, List.filterMap_nil, List.append_nil, List.append_nil]
    exact h
  | cons command rest ih =>
    have hrest := ih (h.perform command)
    have hcons : ∀ {β : Type} (f : Command → Option β),
        (command :: rest).filterMap f = (f command).toList ++ rest.filterMap f := by
      intro β f
      rw [List.filterMap_cons]
      cases f command <;> rfl
    rw [hcons, hcons, ← List.append_assoc, ← List.append_assoc]
    exact hrest

theorem extends_run (start : Relational ι) (commands : List Command) :
    Extends start (commands.filterMap condition?) (commands.filterMap Command.sortKey?)
      (run commands start) :=
  (extends_refl start).run commands

/-! ### A small query -/

/-- The owners of more than two unsold parcels each, at most a hundred of them. -/
def unsoldOwners : Sql.Clauses where
  head := .ofText "SELECT \"owner\" FROM \"parcels\""
  condition := some (.ofExpr (.compare ⟨none, "sold"⟩ .equal (.boolean false)))
  grouping := ⟨" GROUP BY \"owner\" HAVING COUNT(*) > ?", [.integer 2]⟩
  order := []
  limit := some 100
  offset := none
  tail := .empty

end Listing.Relational
