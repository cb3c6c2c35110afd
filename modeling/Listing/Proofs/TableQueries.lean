/-
  Listing/Proofs/TableQueries.lean
  ================================
  **The statements of a source over a query.**

  After any calls the query of a source is the query that it started with, with the
  conditions of the filters that were accepted joined behind its own one by *and*
  (`Joined`) and with the sort keys behind its order (`Sorted`).  The count and the page
  of a query are built around the same parts and carry their values (`InStep`).  A fetch
  is an exchange of at most two statements with the database, of which the second is
  sent only when the first one was answered with a number (`exchanges_fetch`).  Together
  these keep count and page in step whatever query there was at the start and whatever
  the database answers (`queries_in_step`).
-/
import Listing.Proofs.Parameterised

namespace Listing

open Sql (Column Expr Statement Value Where)

/-! ### Conditions joined by *and* -/

namespace Sql

theorem Statement.append_empty (statement : Statement) : statement ++ .empty = statement :=
  congrArg₂ Statement.mk String.append_empty (List.append_nil _)

/-- The text of a condition behind another one: in parentheses if it has parts of its own. -/
def Expr.besideText (e : Expr) : String :=
  match e with
  | .between .. | .join .. => "(" ++ e.sql ++ ")"
  | .compare .. | .isNull .. | .isIn .. | .like .. => e.sql

/-- The text of a condition in front of others: parts that are joined by *and* need no
    parentheses there. -/
def Expr.frontText (e : Expr) : String :=
  match e with
  | .between .. | .join .disjunction .. => "(" ++ e.sql ++ ")"
  | .compare .. | .isNull .. | .isIn .. | .like .. | .join .conjunction .. => e.sql

/-- The text of a query's own condition in front of others. -/
def Where.frontText (own : Where) : String :=
  if own.grouped then "(" ++ own.statement.sql ++ ")" else own.statement.sql

/-- Some conditions in their order, joined by *and*. -/
def conjunctionText (first : Expr) : List Expr → String
  | [] => first.sql
  | rest@(_ :: _) => " AND ".intercalate (first.frontText :: rest.map Expr.besideText)

/-- The same behind another condition, as one part. -/
def conjunctText (first : Expr) : List Expr → String
  | [] => first.besideText
  | rest@(_ :: _) => "(" ++ conjunctionText first rest ++ ")"

/-- The clause in which the conditions of filters stand behind the condition of a query, all
    joined by *and* in their order, with the values of all. -/
inductive Joined : Option Where → List Expr → Statement → Prop where
  | nothing : Joined none [] ⟨"", []⟩
  | own (own : Where) : Joined (some own) [] ⟨" WHERE " ++ own.statement.sql, own.statement.values⟩
  | filters (first : Expr) (rest : List Expr) :
      Joined none (first :: rest)
        ⟨" WHERE " ++ conjunctionText first rest, (first :: rest).flatMap Expr.values⟩
  /-- The query has a list of conditions, which gets longer. -/
  | listed {own : Where} (joins : own.joins = true) (first : Expr) (rest : List Expr) :
      Joined (some own) (first :: rest)
        ⟨" WHERE " ++ " AND ".intercalate
            (own.frontText :: (first :: rest).map Expr.besideText),
          own.statement.values ++ (first :: rest).flatMap Expr.values⟩
  /-- The query has another condition, and the filters stand behind it as one. -/
  | apart {own : Where} (other : own.joins = false) (first : Expr) (rest : List Expr) :
      Joined (some own) (first :: rest)
        ⟨" WHERE " ++ (own.frontText ++ " AND " ++ conjunctText first rest),
          own.statement.values ++ (first :: rest).flatMap Expr.values⟩

/-- The text of a sort key in a statement. -/
def keyText : String × Direction → String
  | (field, .asc) => quoteName field ++ " ASC"
  | (field, .desc) => quoteName field ++ " DESC"

/-- The clause in which sort keys stand behind the order of a query. -/
inductive Sorted : List Statement → List (String × Direction) → Statement → Prop where
  | nothing : Sorted [] [] ⟨"", []⟩
  | keys {own : List Statement} {keys : List (String × Direction)} (some : own ≠ [] ∨ keys ≠ []) :
      Sorted own keys ⟨" ORDER BY " ++ ", ".intercalate (own.map Statement.sql ++ keys.map keyText),
        own.flatMap Statement.values⟩

/-! ### The clauses of a query that grows -/

/-- Two parts that are joined already are one. -/
theorem intercalate_joined (separator first second : String) (rest : List String) :
    separator.intercalate ((first ++ separator ++ second) :: rest)
      = separator.intercalate (first :: second :: rest) := by
  cases rest with
  | nil =>
    rw [String.intercalate_singleton, String.intercalate_cons_cons, String.intercalate_singleton]
  | cons third rest => simp only [String.intercalate_cons_cons, String.append_assoc]

namespace Expr

theorem sql_operand_front (e : Expr) :
    (e.statement.operand (e.needsParentheses .conjunction true)).sql = e.frontText := by
  cases e with
  | join connective left right => cases connective <;> rfl
  | _ => rfl

theorem sql_operand_beside (e : Expr) :
    (e.statement.operand (e.needsParentheses .conjunction false)).sql = e.besideText := by
  cases e <;> rfl

end Expr

namespace Where

theorem sql_operand (own : Where) :
    (own.statement.operand own.grouped).sql = own.frontText := by
  unfold Statement.operand frontText
  cases own.grouped <;> rfl

theorem sql_and (own : Where) (e : Expr) :
    (own.and e).statement.sql = own.frontText ++ " AND " ++ e.besideText := by
  rw [← own.sql_operand, ← e.sql_operand_beside]
  rfl

/-- Conditions that join a list get behind it, one after the other. -/
theorem sql_foldl_and (own : Where) (first : Expr) (rest : List Expr) :
    ((first :: rest).foldl and own).statement.sql
      = " AND ".intercalate (own.frontText :: (first :: rest).map Expr.besideText) := by
  induction rest generalizing own first with
  | nil =>
    rw [List.map_singleton, String.intercalate_cons_cons, String.intercalate_singleton]
    exact own.sql_and first
  | cons second rest ih =>
    -- what is joined so far needs no parentheses, so it reads as the first two parts of a list
    have hfront : (own.and first).frontText = own.frontText ++ " AND " ++ first.besideText :=
      own.sql_and first
    rw [List.foldl_cons, ih, hfront, intercalate_joined]
    rfl

end Where

/-- The text of all conditions as one. -/
theorem Expr.sql_all (first : Expr) (rest : List Expr) :
    (rest.foldl (Expr.join .conjunction) first).sql = conjunctionText first rest := by
  cases rest with
  | nil => rfl
  | cons second rest =>
    have hwhole := Where.sql_foldl_and (.ofExpr first) second rest
    rw [Where.foldl_and_ofExpr] at hwhole
    have hfront : (Where.ofExpr first).frontText = first.frontText := by
      rw [← first.sql_operand_front, ← Where.sql_operand]
      rfl
    rwa [hfront] at hwhole

/-- Several conditions are a conjunction, which needs parentheses behind another condition. -/
theorem Expr.besideText_all (first : Expr) (rest : List Expr) :
    (rest.foldl (Expr.join .conjunction) first).besideText = conjunctText first rest := by
  cases rest with
  | nil => rfl
  | cons second rest =>
    have hjoin : ∀ (more : List Expr) (left right : Expr),
        (more.foldl (Expr.join .conjunction) (.join .conjunction left right)).besideText
          = "(" ++ (more.foldl (Expr.join .conjunction) (.join .conjunction left right)).sql
            ++ ")" := by
      intro more
      induction more with
      | nil => exact fun _ _ => rfl
      | cons third more ih => exact fun _ _ => ih _ _
    rw [List.foldl_cons, hjoin, ← List.foldl_cons, Expr.sql_all]
    rfl

namespace Clauses

theorem whereClause_of_some {clauses : Clauses} {condition : Where}
    (h : clauses.condition = some condition) :
    clauses.whereClause = ⟨" WHERE " ++ condition.statement.sql, condition.statement.values⟩ := by
  rw [whereClause, h]
  rfl

/-- The conditions of filters are joined behind the condition of the select. -/
theorem joined_filtered (clauses : Clauses) (conditions : List Expr) :
    Joined clauses.condition conditions (clauses.filtered conditions).whereClause := by
  cases hown : clauses.condition with
  | none =>
    have hfiltered : (clauses.filtered conditions).condition
        = (Expr.all? conditions).map Where.ofExpr := by
      rw [filtered, hown]
    cases conditions with
    | nil =>
      rw [whereClause, hfiltered]
      exact .nothing
    | cons first rest =>
      have hvalues : (rest.foldl (Expr.join .conjunction) first).values
          = (first :: rest).flatMap Expr.values := Expr.values_all? rfl
      rw [whereClause_of_some hfiltered, Where.ofExpr, Expr.statement, Expr.sql_all, hvalues]
      exact .filters first rest
  | some own =>
    have hfiltered : (clauses.filtered conditions).condition = some (own.andAll conditions) := by
      rw [filtered, hown]
    have hvalues := own.values_andAll conditions
    rw [whereClause_of_some hfiltered, hvalues]
    cases conditions with
    | nil =>
      have hnothing : own.andAll [] = own := by
        unfold Where.andAll
        cases own.joins <;> rfl
      rw [hnothing, List.flatMap_nil, List.append_nil]
      exact .own own
    | cons first rest =>
      cases hjoins : own.joins with
      | true =>
        have hlisted : own.andAll (first :: rest) = (first :: rest).foldl Where.and own := by
          rw [Where.andAll, if_pos hjoins]
        rw [hlisted, Where.sql_foldl_and]
        exact .listed hjoins first rest
      | false =>
        have hapart : own.andAll (first :: rest)
            = own.and (rest.foldl (Expr.join .conjunction) first) := by
          rw [Where.andAll, hjoins]
          rfl
        rw [hapart, Where.sql_and, Expr.besideText_all]
        exact .apart hjoins first rest

end Clauses

end Sql

/-! ### Exchanges with the database -/

namespace Database

variable {ι : Type}

/-- The answer to a statement, by the number of statements that are sent before it. -/
def reply (database : Database ι) (index : Nat) : Reply ι :=
  database.replies[index]?.getD (.failure .noAnswer)

theorem send_eq (statement : Statement) (database : Database ι) :
    database.send statement
      = (⟨database.replies.drop 1, database.executed ++ [statement]⟩, database.reply 0) := by
  obtain ⟨replies, executed⟩ := database
  cases replies <;> rfl

theorem exists_fault_of_countOf {reply : Reply ι} {error : Error} (h : countOf reply = .error error) :
    ∃ fault, error = .database fault := by
  cases reply with
  | count n => cases h
  | rows items =>
    cases items with
    | nil => cases h
    | cons item rest =>
      cases h
      exact ⟨_, rfl⟩
  | failure fault =>
    cases h
    exact ⟨fault, rfl⟩

theorem exists_fault_of_rowsOf {columns : List String} {reply : Reply ι} {error : Error}
    (h : rowsOf columns reply = .error error) : ∃ fault, error = .database fault := by
  cases reply with
  | count n =>
    cases columns with
    | nil => cases h
    | cons column rest =>
      cases h
      exact ⟨_, rfl⟩
  | rows items => cases h
  | failure fault =>
    cases h
    exact ⟨fault, rfl⟩

end Database

namespace Relational

open Source (Command perform run succeeded)

variable {ι : Type}

/-- What a fetch sends and what it gives: a count that is not answered with a number ends it; an
    answer without the rows of the page is an error too. -/
inductive Exchange (source : Relational ι) (limit offset : Nat) :
    List Statement → Except Error (Page ι) → Prop
  | uncounted {fault : DatabaseFault}
      (answer : Database.countOf (source.database.reply 0) = .error (.database fault)) :
      Exchange source limit offset [source.select.count] (.error (.database fault))
  | unread {total : Nat} {fault : DatabaseFault}
      (counted : Database.countOf (source.database.reply 0) = .ok total)
      (answer : Database.rowsOf source.columns (source.database.reply 1)
        = .error (.database fault)) :
      Exchange source limit offset
        [source.select.count, (source.pageSelect limit offset).statement]
        (.error (.database fault))
  | read {total : Nat} {items : List ι}
      (counted : Database.countOf (source.database.reply 0) = .ok total)
      (answer : Database.rowsOf source.columns (source.database.reply 1) = .ok items) :
      Exchange source limit offset
        [source.select.count, (source.pageSelect limit offset).statement]
        (.ok ⟨items, total⟩)

/-- The source after statements were sent; nothing else of it has changed. -/
def sending (source : Relational ι) (sent : List Statement) : Relational ι :=
  { source with
    database := ⟨source.database.replies.drop sent.length, source.database.executed ++ sent⟩ }

theorem counted_eq (source : Relational ι) :
    source.counted = ((source.sending [source.select.count]).database, source.database.reply 0) :=
  Database.send_eq _ _

theorem paged_eq (limit offset : Nat) (source : Relational ι) :
    source.paged limit offset
      = ((source.sending [source.select.count, (source.pageSelect limit offset).statement]).database,
        source.database.reply 1) := by
  rw [paged, counted_eq, Database.send_eq]
  obtain ⟨table, conditions, order, replies, executed⟩ := source
  cases replies with
  | nil => simp [sending, Database.reply]
  | cons first rest => simp [sending, Database.reply]

/-- A fetch is one exchange, and does nothing besides. -/
theorem exchanges_fetch (limit offset : Nat) (source : Relational ι) :
    ∃ sent result, Exchange source limit offset sent result ∧
      (perform (.fetch limit offset) source).state = source.sending sent ∧
      (perform (.fetch limit offset) source).result = result.map some := by
  have hreply : source.counted.2 = source.database.reply 0 := by rw [counted_eq]
  have hsecond : (source.paged limit offset).2 = source.database.reply 1 := by rw [paged_eq]
  cases hcount : Database.countOf (source.database.reply 0) with
  | error error =>
    obtain ⟨fault, rfl⟩ := Database.exists_fault_of_countOf hcount
    refine ⟨_, _, .uncounted hcount, ?_, ?_⟩
    · rw [perform_fetch_of_error (hreply ▸ hcount), counted_eq]
      rfl
    · rw [perform_fetch_of_error (hreply ▸ hcount)]
      rfl
  | ok total =>
    have hstate : (perform (.fetch limit offset) source).state = _ :=
      state_perform_fetch_of_ok (hreply ▸ hcount)
    have hresult : (perform (.fetch limit offset) source).result = _ :=
      result_perform_fetch_of_ok (hreply ▸ hcount)
    rw [paged_eq] at hstate
    rw [hsecond] at hresult
    cases hrows : Database.rowsOf source.columns (source.database.reply 1) with
    | error error =>
      obtain ⟨fault, rfl⟩ := Database.exists_fault_of_rowsOf hrows
      rw [hrows] at hresult
      exact ⟨_, _, .unread hcount hrows, hstate, hresult⟩
    | ok items =>
      rw [hrows] at hresult
      exact ⟨_, _, .read hcount hrows, hstate, hresult⟩

/-! ### One call -/

/-- How the source answers a further call. -/
structure Responds (source : Relational ι) : Prop where
  /-- A filter is accepted when it can be made into a condition, and sends nothing. -/
  filtered : ∀ field kind op params,
    ((perform (.filter field kind op params) source).result = .ok none ↔
        ∃ e, condition field kind op params = .ok e) ∧
      (perform (.filter field kind op params) source).state.database = source.database
  /-- A filter that is refused changes nothing. -/
  refused : ∀ field kind op params error,
    (perform (.filter field kind op params) source).result = .error error →
      (perform (.filter field kind op params) source).state = source
  /-- A sort key is always taken, and sends nothing. -/
  sorted : ∀ field direction,
    (perform (.sort field direction) source).result = .ok none ∧
      (perform (.sort field direction) source).state.database = source.database
  /-- A fetch is one exchange, and leaves the query as it is. -/
  fetched : ∀ limit offset, ∃ sent result, Exchange source limit offset sent result ∧
    (perform (.fetch limit offset) source).result = result.map some ∧
    (perform (.fetch limit offset) source).state = source.sending sent ∧
    (perform (.fetch limit offset) source).state.select = source.select

theorem responds (source : Relational ι) : Responds source where
  filtered field kind op params := by
    cases hcondition : condition field kind op params with
    | ok e =>
      rw [perform_filter_ok hcondition]
      exact ⟨⟨fun _ => ⟨e, rfl⟩, fun _ => rfl⟩, rfl⟩
    | error error =>
      rw [perform_filter_error hcondition]
      refine ⟨⟨?_, ?_⟩, rfl⟩
      · intro h
        cases h
      · rintro ⟨_, ⟨⟩⟩
  refused field kind op params error h := by
    cases hcondition : condition field kind op params with
    | ok e =>
      rw [perform_filter_ok hcondition] at h
      cases h
    | error _ => rw [perform_filter_error hcondition]
  sorted field direction := by
    rw [perform_sort]
    exact ⟨rfl, rfl⟩
  fetched limit offset := by
    obtain ⟨sent, result, hexchange, hstate, hresult⟩ := exchanges_fetch limit offset source
    refine ⟨sent, result, hexchange, hresult, hstate, ?_⟩
    rw [hstate]
    rfl

/-! ### Any calls -/

def isFilter : Command → Bool
  | .filter .. => true
  | .sort .. | .fetch .. => false

/-- The condition is the one that the filter is made into. -/
inductive Builds : Command → Expr → Prop
  | filter {field : String} {kind : ValueKind} {op : Operator} {params : List String} {e : Expr}
      (made : condition field kind op params = .ok e) : Builds (.filter field kind op params) e

/-- The conditions of a run are those of the filters that were accepted in it. -/
theorem builds_succeeded (commands : List Command) (start : Relational ι) :
    List.Forall₂ Builds ((succeeded commands start).filter isFilter)
      (commands.filterMap condition?) := by
  induction commands generalizing start with
  | nil => exact .nil
  | cons command rest ih =>
    have hrest := ih (perform command start).state
    cases command with
    | filter field kind op params =>
      rw [succeeded]
      cases hcondition : condition field kind op params with
      | ok e =>
        rw [perform_filter_ok hcondition] at hrest ⊢
        rw [List.filterMap_cons_some (condition?_filter_ok hcondition),
          List.filter_cons_of_pos rfl]
        exact .cons (.filter hcondition) hrest
      | error error =>
        rw [perform_filter_error hcondition] at hrest ⊢
        rw [List.filterMap_cons_none (condition?_filter_error hcondition)]
        exact hrest
    | sort field direction =>
      rw [succeeded, perform_sort, List.filter_cons_of_neg Bool.false_ne_true]
      exact hrest
    | fetch limit offset =>
      rw [succeeded]
      cases (perform (.fetch limit offset) start).result with
      | ok answer =>
        rw [List.filter_cons_of_neg Bool.false_ne_true]
        exact hrest
      | error error => exact hrest

/-- Sort keys stand behind the order of the select. -/
theorem sorted_ordered (clauses : Sql.Clauses) (keys : List (String × Direction)) :
    Sql.Sorted clauses.order keys (clauses.ordered (keys.map orderKey)).orderClause := by
  have hvalues := clauses.values_orderClause_ordered (keys.map orderKey)
  rw [Sql.Clauses.values_orderClause clauses] at hvalues
  have htexts : (clauses.order ++ (keys.map orderKey).map fun key =>
      Statement.ofText (Sql.orderKeyText key)).map Statement.sql
      = clauses.order.map Statement.sql ++ keys.map Sql.keyText := by
    rw [List.map_append, List.map_map, List.map_map]
    refine congrArg (clauses.order.map Statement.sql ++ ·) (List.map_congr_left ?_)
    rintro ⟨field, direction⟩ -
    cases direction <;> exact String.append_assoc
  by_cases hnone : clauses.order = [] ∧ keys = []
  · obtain ⟨horder, rfl⟩ := hnone
    have hclause : (clauses.ordered []).orderClause = ⟨"", []⟩ := by
      rw [Sql.Clauses.orderClause, Sql.Clauses.ordered, horder]
      rfl
    rw [List.map_nil, hclause, horder]
    exact .nothing
  · have hsome : clauses.order ≠ [] ∨ keys ≠ [] := Decidable.not_and_iff_or_not.1 hnone
    have hclause : (clauses.ordered (keys.map orderKey)).orderClause
        = ⟨" ORDER BY "
            ++ ", ".intercalate (clauses.order.map Statement.sql ++ keys.map Sql.keyText),
          clauses.order.flatMap Statement.values⟩ := by
      have hkeys : ¬ (clauses.ordered (keys.map orderKey)).order.isEmpty = true := by
        rw [List.isEmpty_iff, Sql.Clauses.ordered, List.append_eq_nil_iff, List.map_eq_nil_iff,
          List.map_eq_nil_iff]
        exact hnone
      rw [Sql.Clauses.orderClause, if_neg hkeys] at hvalues ⊢
      exact congrArg₂
        (fun texts values => Statement.mk (" ORDER BY " ++ ", ".intercalate texts) values)
        htexts hvalues
    rw [hclause]
    exact .keys hsome

/-- What a run sends: one exchange for each of its fetches, in their order. -/
inductive Sends : Relational ι → List Command → List Statement → Prop
  | nil {source : Relational ι} : Sends source [] []
  | quiet {source : Relational ι} {command : Command} {rest : List Command}
      {sent : List Statement} (silent : ∀ limit offset, command ≠ .fetch limit offset)
      (later : Sends (perform command source).state rest sent) :
      Sends source (command :: rest) sent
  | fetch {source : Relational ι} {limit offset : Nat} {rest : List Command}
      {first sent : List Statement} {result : Except Error (Page ι)}
      (exchange : Exchange source limit offset first result)
      (later : Sends (perform (.fetch limit offset) source).state rest sent) :
      Sends source (.fetch limit offset :: rest) (first ++ sent)

/-- Nothing but the exchanges of a run reaches the database. -/
theorem exists_sends (start : Relational ι) (commands : List Command) :
    ∃ sent, Sends start commands sent ∧
      (run commands start).database = (start.sending sent).database := by
  induction commands generalizing start with
  | nil =>
    refine ⟨[], .nil, ?_⟩
    have hnothing : (start.sending []).database = start.database := by
      simp [sending]
    rw [hnothing]
    rfl
  | cons command rest ih =>
    obtain ⟨sent, hsends, hdatabase⟩ := ih (perform command start).state
    have hrun : run (command :: rest) start = run rest (perform command start).state := rfl
    rw [hrun, hdatabase]
    cases command with
    | filter field kind op params =>
      refine ⟨sent, .quiet (fun _ _ => Command.noConfusion) hsends, ?_⟩
      rw [sending, ((responds start).filtered field kind op params).2]
      rfl
    | sort field direction =>
      refine ⟨sent, .quiet (fun _ _ => Command.noConfusion) hsends, ?_⟩
      rw [sending, ((responds start).sorted field direction).2]
      rfl
    | fetch limit offset =>
      obtain ⟨first, result, hexchange, -, hstate, -⟩ := (responds start).fetched limit offset
      refine ⟨first ++ sent, .fetch hexchange hsends, ?_⟩
      rw [hstate]
      simp only [sending, List.drop_drop, List.length_append, List.append_assoc]

/-- The query of a source, its count and its pages, around the same parts of the query at the
    start: what it reads, with the condition and the grouping, and what follows its page. -/
structure InStep (base : Sql.Clauses) (condition order : Statement) (source : Relational ι) :
    Prop where
  query : source.select.statement
    = base.head ++ condition ++ base.grouping ++ order ++ base.pageClause ++ base.tail
  /-- The count is taken over the same rows, without their order and without a page. -/
  count : source.select.count = .ofText "SELECT COUNT(*) AS num_items FROM ("
    ++ (base.head ++ condition ++ base.grouping ++ base.tail) ++ .ofText ") AS \"sub_query\""
  /-- A page has its limit and offset in the place of any that the query has. -/
  page : ∀ limit offset, (source.pageSelect limit offset).statement
    = base.head ++ condition ++ base.grouping ++ order
      ++ ⟨" LIMIT ? OFFSET ?", [.unsigned limit, .unsigned offset]⟩ ++ base.tail
  /-- If the query has none and nothing follows them, they stand behind it. -/
  behind : base.limit = none → base.offset = none → base.tail = .empty → ∀ limit offset,
    (source.pageSelect limit offset).statement
      = source.select.statement ++ ⟨" LIMIT ? OFFSET ?", [.unsigned limit, .unsigned offset]⟩

theorem inStep (source : Relational ι) :
    InStep source.base (source.base.filtered source.conditions).whereClause
      (source.base.ordered source.order).orderClause source where
  query := rfl
  count := by
    have hinner : Sql.Clauses.statement
        { source.select with order := [], limit := none, offset := none }
        = source.base.head ++ (source.base.filtered source.conditions).whereClause
          ++ source.base.grouping ++ .empty ++ (.empty ++ .empty) ++ source.base.tail := rfl
    rw [Statement.append_empty, Statement.append_empty, Statement.append_empty] at hinner
    rw [Sql.Clauses.count, hinner]
    rfl
  page _ _ := rfl
  behind hlimit hoffset htail limit offset := by
    have hpage : source.base.pageClause = .empty := by
      rw [Sql.Clauses.pageClause, hlimit, hoffset]
      exact Statement.append_empty _
    have hquery : source.select.statement
        = source.base.head ++ (source.base.filtered source.conditions).whereClause
          ++ source.base.grouping ++ (source.base.ordered source.order).orderClause
          ++ source.base.pageClause ++ source.base.tail := rfl
    have hpaged : (source.pageSelect limit offset).statement
        = source.base.head ++ (source.base.filtered source.conditions).whereClause
          ++ source.base.grouping ++ (source.base.ordered source.order).orderClause
          ++ ⟨" LIMIT ? OFFSET ?", [.unsigned limit, .unsigned offset]⟩ ++ source.base.tail := rfl
    rw [hpaged, hquery, hpage, htail, Statement.append_empty, Statement.append_empty,
      Statement.append_empty]

/-- **Count and page stay in step.**  After any calls, whether they succeeded or not, over
    whatever query, and whatever the database answered: the query is that at the start with the
    conditions of exactly the accepted filters, in their order, joined by *and* behind its own
    one, and with the sort keys behind its order.  The database was sent one exchange for each
    fetch and nothing else.  The count is taken over the rows of the query without its order, the
    page is the query with limit and offset, and both carry the values of its conditions. -/
theorem queries_in_step (table : String) (columns : List String) (base : Sql.Clauses)
    (database : Database ι) (commands : List Command) :
    let start := ofQuery table columns base database
    (∃ conditions condition order,
        List.Forall₂ Builds ((succeeded commands start).filter isFilter) conditions ∧
        Sql.Joined base.condition conditions condition ∧
        Sql.Sorted base.order (commands.filterMap Command.sortKey?) order ∧
        InStep base condition order (run commands start)) ∧
      (∃ sent, Sends start commands sent ∧
        (run commands start).database.executed = database.executed ++ sent ∧
        (run commands start).database.replies = database.replies.drop sent.length) ∧
      Responds (run commands start) := by
  intro start
  obtain ⟨sent, hsends, hdatabase⟩ := exists_sends start commands
  refine ⟨⟨_, _, _, builds_succeeded commands start, base.joined_filtered _,
    sorted_ordered base _, ?_⟩, ⟨sent, hsends, ?_, ?_⟩, responds _⟩
  · have hextends := extends_run start commands
    have hstep := inStep (run commands start)
    rw [hextends.base_eq, hextends.conditions_eq, hextends.order_eq] at hstep
    exact hstep
  · rw [hdatabase]
    rfl
  · rw [hdatabase]
    rfl

/-- A query with a condition, a grouping and a limit of its own gets two conditions and a sort
    key.  The first count fails, the second one is followed by its page, and a filter that is
    refused leaves no trace. -/
theorem unsold_owners_in_step :
    let start : Relational Row := ofQuery "parcels" ["owner"] unsoldOwners
      ⟨[.failure (.custom "down"), .count 1, .rows []], []⟩
    let commands : List Command := [.filter "owner" .text .ne ["Ann"], .fetch 10 0,
      .filter "size" .integer .between ["1"], .filter "size" .integer .lt ["5"],
      .sort "owner" .desc, .fetch 10 20]
    let grouped := " GROUP BY \"owner\" HAVING COUNT(*) > ?"
    let first := "SELECT \"owner\" FROM \"parcels\" WHERE \"sold\" = ?"
      ++ " AND (\"owner\" <> ? OR \"owner\" IS NULL)"
    let second := first ++ " AND \"size\" < ?" ++ grouped
    let values : List Value := [.boolean false, .text "Ann", .integer 5, .integer 2]
    (∃ sent, Sends start commands sent ∧
      sent = [⟨"SELECT COUNT(*) AS num_items FROM (" ++ (first ++ grouped) ++ ") AS \"sub_query\"",
          [.boolean false, .text "Ann", .integer 2]⟩,
        ⟨"SELECT COUNT(*) AS num_items FROM (" ++ second ++ ") AS \"sub_query\"", values⟩,
        ⟨second ++ " ORDER BY \"owner\" DESC LIMIT ? OFFSET ?",
          values ++ [.unsigned 10, .unsigned 20]⟩]) ∧
      (run commands start).select.statement
        = ⟨second ++ " ORDER BY \"owner\" DESC LIMIT ?", values ++ [.unsigned 100]⟩ := by
  intro start commands grouped first second values
  obtain ⟨-, ⟨sent, hsends, hexecuted, -⟩, -⟩ := queries_in_step "parcels" ["owner"] unsoldOwners
    (⟨[.failure (.custom "down"), .count 1, .rows []], []⟩ : Database Row) commands
  refine ⟨⟨sent, hsends, ?_⟩, by decide +kernel⟩
  rw [List.nil_append] at hexecuted
  rw [← hexecuted]
  decide +kernel

/-- A condition of another form is kept apart from those of the filters. -/
example :
    let fragile : Where :=
      ⟨⟨"\"sold\" = ? OR \"broken\" = ?", [.boolean true, .boolean true]⟩, true, false⟩
    let start : Relational Row := ofQuery "parcels" ["owner"]
      { unsoldOwners with condition := some fragile, grouping := .empty } ⟨[], []⟩
    let commands : List Command :=
      [.filter "size" .integer .lt ["5"], .filter "size" .integer .gt ["1"]]
    (run commands start).select.statement
      = ⟨"SELECT \"owner\" FROM \"parcels\" WHERE (\"sold\" = ? OR \"broken\" = ?)"
          ++ " AND (\"size\" < ? AND \"size\" > ?) LIMIT ?",
        [.boolean true, .boolean true, .integer 5, .integer 1, .unsigned 100]⟩ := by
  decide +kernel

/-- A limit of the query's own gives way to that of a page, so the page is not the query with
    something behind it.  And rows in answer to a count are no failure of the database, but they
    hold no number, so the page is not sent and an error is given. -/
theorem own_limit_gives_way :
    let row : Row := ⟨.object [("owner", .string "Ann")], none, none, none⟩
    let start : Relational Row :=
      ofQuery "parcels" ["owner"] unsoldOwners ⟨[.rows [row], .rows [row]], []⟩
    start.select.statement.sql ++ " LIMIT ? OFFSET ?" ≠ (start.pageSelect 10 0).statement.sql ∧
      start.select.statement.values ++ [.unsigned 10, .unsigned 0]
        ≠ (start.pageSelect 10 0).statement.values ∧
      (perform (.fetch 10 0) start).result = .error (.database (.missingValue "num_items")) ∧
      (perform (.fetch 10 0) start).state.database.executed = [start.select.count] := by
  intro row start
  exact ⟨by decide +kernel, by decide +kernel, rfl, rfl⟩

end Relational

end Listing
