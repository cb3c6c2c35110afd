/-
  Listing/Proofs/Parameterised.lean
  =================================
  **Request text never becomes SQL text.**

  Parameters of filters are bound to placeholders.  What a condition is built of is
  decided by the operator, the field and the number of parameters: two calls that agree
  in these are built into conditions that differ in their values only
  (`blank_condition_eq`).  The values themselves are those that the parameters stand
  for, in their order (`binds_condition`).  Both facts are carried through whole runs,
  so runs that agree in everything but the contents of parameters send the same texts
  (`same_text_of_alike`), whatever query they begin with.  The values of the calls stand
  behind those of that query's own conditions and before those of its later clauses; each
  has its placeholder as long as those of the query have theirs (`Sql.Clauses.Marked`).
-/
import Listing.Proofs.Placeholders
import Listing.Proofs.TableRuns

namespace Listing

open Relational (Anchor condition emptyValues pattern unsoldOwners value?)
open Source (Command perform run)
open Sql (Column Comparison Expr Statement Value)

variable {ι : Type}

/-! ### Values of calls -/

/-- The parameters that an operator looks at; it can be given more when the source is asked
    directly. -/
def Operator.taken (op : Operator) (params : List String) : List String :=
  match op.arity with
  | .zero => []
  | .one => params.take 1
  | .two => params.take 2
  | .unlimited => params

/-- How an operator that matches ties its parameter to the value. -/
def Operator.anchor? : Operator → Option Anchor
  | .startsWith | .notStartsWith => some .start
  | .endsWith | .notEndsWith => some .finish
  | .contains | .notContains => some .anywhere
  | _ => none

/-- The parameters stand for the values, one by one. -/
def Relational.Coerces (kind : ValueKind) (params : List String) (values : List Value) : Prop :=
  List.Forall₂ (fun param value => value? kind param = some value) params values

namespace Source.Command

/-- The values that a call binds: those that count as empty, the pattern of the parameter, or
    what the parameters stand for in the filter's kind.  Only filters bind values. -/
inductive Binds : Command → List Value → Prop
  | empty {field : String} {kind : ValueKind} {op : Operator} {params : List String}
      (arity : op.arity = .zero) : Binds (.filter field kind op params) (emptyValues kind)
  | pattern {field : String} {kind : ValueKind} {op : Operator} {params : List String}
      {anchor : Anchor} {param : String} (matching : op.anchor? = some anchor)
      (taken : op.taken params = [param]) :
      Binds (.filter field kind op params) [.text (pattern anchor param)]
  | values {field : String} {kind : ValueKind} {op : Operator} {params : List String}
      {values : List Value} (arity : op.arity ≠ .zero) (comparing : op.anchor? = none)
      (coerced : Relational.Coerces kind (op.taken params) values) :
      Binds (.filter field kind op params) values
  | sort {field : String} {direction : Direction} : Binds (.sort field direction) []
  | fetch {limit offset : Nat} : Binds (.fetch limit offset) []

/-- The call is no filter, or a filter that is built into a condition. -/
def Accepted : Command → Prop
  | .filter field kind op params => ∃ e, condition field kind op params = .ok e
  | .sort .. | .fetch .. => True

/-- Two calls that agree in everything but the contents of parameters and the place of a page. -/
inductive Alike : Command → Command → Prop
  | filter {field : String} {kind : ValueKind} {op : Operator} {params others : List String}
      (count : params.length = others.length) :
      Alike (.filter field kind op params) (.filter field kind op others)
  | sort {field : String} {direction : Direction} :
      Alike (.sort field direction) (.sort field direction)
  | fetch {limit offset limit' offset' : Nat} : Alike (.fetch limit offset) (.fetch limit' offset')

end Source.Command

/-! ### What the conditions are built of -/

namespace Relational

section Parts

variable {column : Column} {kind : ValueKind} {op : Operator} {params : List String} {e : Expr}

theorem exists_of_paramAt {index : Nat} {param : String}
    (h : paramAt op params index = .ok param) : params[index]? = some param := by
  unfold paramAt at h
  split at h
  · rename_i found hfound
    cases h
    exact hfound
  · cases h

theorem exists_of_comparing {comparison : Comparison}
    (h : comparing column kind op params comparison = .ok e) :
    ∃ value, Coerces kind (params.take 1) [value] ∧ e = .compare column comparison value := by
  obtain ⟨param, hparam, h⟩ := Except.bind_eq_ok_iff.1 h
  obtain ⟨value, hvalue, ⟨⟩⟩ := Except.bind_eq_ok_iff.1 h
  have hfirst := exists_of_paramAt hparam
  cases params with
  | nil => cases hfirst
  | cons first rest =>
    cases hfirst
    exact ⟨value, .cons (value?_of_coerce hvalue) .nil, rfl⟩

theorem exists_of_matching {negated : Bool} {anchor : Anchor}
    (h : matching column op params negated anchor = .ok e) :
    ∃ param, params.take 1 = [param] ∧ e = .like column negated (pattern anchor param) := by
  obtain ⟨param, hparam, rfl⟩ := Except.map_eq_ok_iff.1 h
  have hfirst := exists_of_paramAt hparam
  cases params with
  | nil => cases hfirst
  | cons first rest =>
    cases hfirst
    exact ⟨param, rfl, rfl⟩

theorem exists_of_bounds {negated : Bool} (h : bounds column kind op params negated = .ok e) :
    ∃ least greatest, Coerces kind (params.take 2) [least, greatest] ∧
      e = .between column negated least greatest := by
  obtain ⟨low, hlow, h⟩ := Except.bind_eq_ok_iff.1 h
  obtain ⟨least, hleast, h⟩ := Except.bind_eq_ok_iff.1 h
  obtain ⟨high, hhigh, h⟩ := Except.bind_eq_ok_iff.1 h
  obtain ⟨greatest, hgreatest, ⟨⟩⟩ := Except.bind_eq_ok_iff.1 h
  have hfirst := exists_of_paramAt hlow
  have hsecond := exists_of_paramAt hhigh
  rcases params with _ | ⟨first, _ | ⟨second, rest⟩⟩
  · cases hfirst
  · cases hsecond
  · cases hfirst
    cases hsecond
    exact ⟨least, greatest,
      .cons (value?_of_coerce hleast) (.cons (value?_of_coerce hgreatest) .nil), rfl⟩

theorem exists_of_listed {negated : Bool} (h : listed column kind op params negated = .ok e) :
    ∃ values, Coerces kind params values ∧ e = .isIn column negated values := by
  obtain ⟨given, hgiven, h⟩ := Except.bind_eq_ok_iff.1 h
  obtain ⟨values, hvalues, ⟨⟩⟩ := Except.bind_eq_ok_iff.1 h
  unfold someParams at hgiven
  split at hgiven
  · cases hgiven
  · cases hgiven
    exact ⟨values, (mapM_eq_ok_iff.1 hvalues).imp fun _ _ => value?_of_coerce, rfl⟩

end Parts

/-- The values of a condition are those that its filter binds. -/
theorem binds_condition {field : String} {kind : ValueKind} {op : Operator}
    {params : List String} {e : Expr} (h : condition field kind op params = .ok e) :
    Command.Binds (.filter field kind op params) e.values := by
  cases op with
  | empty | notEmpty =>
    cases h
    exact .empty rfl
  | eq | lt | gt | lte | gte =>
    obtain ⟨value, hvalue, rfl⟩ := exists_of_comparing h
    exact .values (by decide) rfl hvalue
  | ne =>
    obtain ⟨test, htest, rfl⟩ := Except.map_eq_ok_iff.1 h
    obtain ⟨value, hvalue, rfl⟩ := exists_of_comparing htest
    exact .values (by decide) rfl hvalue
  | startsWith | endsWith | contains =>
    obtain ⟨param, htaken, rfl⟩ := exists_of_matching h
    exact .pattern rfl htaken
  | notStartsWith | notEndsWith | notContains =>
    obtain ⟨test, htest, rfl⟩ := Except.map_eq_ok_iff.1 h
    obtain ⟨param, htaken, rfl⟩ := exists_of_matching htest
    exact .pattern rfl htaken
  | between =>
    obtain ⟨least, greatest, hvalues, rfl⟩ := exists_of_bounds h
    exact .values (by decide) rfl hvalues
  | notBetween =>
    obtain ⟨test, htest, rfl⟩ := Except.map_eq_ok_iff.1 h
    obtain ⟨least, greatest, hvalues, rfl⟩ := exists_of_bounds htest
    exact .values (by decide) rfl hvalues
  | isIn | notIn =>
    obtain ⟨values, hvalues, rfl⟩ := exists_of_listed h
    exact .values (by decide) rfl hvalues

/-- What a condition looks like without its values is decided by the filter and the number of
    its parameters. -/
theorem blank_condition_eq {field : String} {kind : ValueKind} {op : Operator}
    {params others : List String} {e d : Expr} (hlength : params.length = others.length)
    (h : condition field kind op params = .ok e) (hother : condition field kind op others = .ok d) :
    e.blank = d.blank := by
  cases op with
  | empty | notEmpty =>
    cases h
    cases hother
    rfl
  | eq | lt | gt | lte | gte =>
    obtain ⟨value, -, rfl⟩ := exists_of_comparing h
    obtain ⟨other, -, rfl⟩ := exists_of_comparing hother
    rfl
  | ne =>
    obtain ⟨test, htest, rfl⟩ := Except.map_eq_ok_iff.1 h
    obtain ⟨against, hagainst, rfl⟩ := Except.map_eq_ok_iff.1 hother
    obtain ⟨value, -, rfl⟩ := exists_of_comparing htest
    obtain ⟨other, -, rfl⟩ := exists_of_comparing hagainst
    rfl
  | startsWith | endsWith | contains =>
    obtain ⟨param, -, rfl⟩ := exists_of_matching h
    obtain ⟨other, -, rfl⟩ := exists_of_matching hother
    rfl
  | notStartsWith | notEndsWith | notContains =>
    obtain ⟨test, htest, rfl⟩ := Except.map_eq_ok_iff.1 h
    obtain ⟨against, hagainst, rfl⟩ := Except.map_eq_ok_iff.1 hother
    obtain ⟨param, -, rfl⟩ := exists_of_matching htest
    obtain ⟨other, -, rfl⟩ := exists_of_matching hagainst
    rfl
  | between =>
    obtain ⟨least, greatest, -, rfl⟩ := exists_of_bounds h
    obtain ⟨low, high, -, rfl⟩ := exists_of_bounds hother
    rfl
  | notBetween =>
    obtain ⟨test, htest, rfl⟩ := Except.map_eq_ok_iff.1 h
    obtain ⟨against, hagainst, rfl⟩ := Except.map_eq_ok_iff.1 hother
    obtain ⟨least, greatest, -, rfl⟩ := exists_of_bounds htest
    obtain ⟨low, high, -, rfl⟩ := exists_of_bounds hagainst
    rfl
  | isIn | notIn =>
    obtain ⟨values, hvalues, rfl⟩ := exists_of_listed h
    obtain ⟨more, hmore, rfl⟩ := exists_of_listed hother
    have hcount : values.length = more.length :=
      hvalues.length_eq.symm.trans (hlength.trans hmore.length_eq)
    have hblanks : values.map (fun _ => Value.integer 0) = more.map fun _ => Value.integer 0 := by
      rw [List.map_const', List.map_const', hcount]
    simp only [Expr.blank, hblanks]

/-! ### Whole runs -/

/-- The conditions of a run have the values that its calls bind, call by call. -/
theorem exists_binds {commands : List Command} (h : ∀ command ∈ commands, command.Accepted) :
    ∃ bound, List.Forall₂ Command.Binds commands bound ∧
      (commands.filterMap condition?).flatMap Expr.values = bound.flatten := by
  induction commands with
  | nil => exact ⟨[], .nil, rfl⟩
  | cons command rest ih =>
    obtain ⟨haccepted, hrest⟩ := List.forall_mem_cons.1 h
    obtain ⟨bound, hbinds, hvalues⟩ := ih hrest
    cases command with
    | filter field kind op params =>
      obtain ⟨e, he⟩ := haccepted
      refine ⟨e.values :: bound, .cons (binds_condition he) hbinds, ?_⟩
      rw [List.filterMap_cons_some (condition?_filter_ok he), List.flatMap_cons, hvalues,
        List.flatten_cons]
    | sort field direction => exact ⟨[] :: bound, .cons .sort hbinds, hvalues⟩
    | fetch limit offset => exact ⟨[] :: bound, .cons .fetch hbinds, hvalues⟩

/-- Alike calls give conditions that differ in their values only. -/
theorem blank_conditions_eq {commands others : List Command}
    (halike : List.Forall₂ Command.Alike commands others)
    (haccepted : ∀ command ∈ commands, command.Accepted)
    (hothers : ∀ command ∈ others, command.Accepted) :
    (commands.filterMap condition?).map Expr.blank
      = (others.filterMap condition?).map Expr.blank := by
  induction halike with
  | nil => rfl
  | cons hhead _ ih =>
    obtain ⟨hfirst, hrest⟩ := List.forall_mem_cons.1 haccepted
    obtain ⟨hother, hmore⟩ := List.forall_mem_cons.1 hothers
    cases hhead with
    | @filter field kind op params others hcount =>
      obtain ⟨e, he⟩ := hfirst
      obtain ⟨d, hd⟩ := hother
      rw [List.filterMap_cons_some (condition?_filter_ok he),
        List.filterMap_cons_some (condition?_filter_ok hd), List.map_cons, List.map_cons,
        blank_condition_eq hcount he hd, ih hrest hmore]
    | sort => exact ih hrest hmore
    | fetch => exact ih hrest hmore

theorem sortKeys_eq {commands others : List Command}
    (halike : List.Forall₂ Command.Alike commands others) :
    commands.filterMap Command.sortKey? = others.filterMap Command.sortKey? := by
  induction halike with
  | nil => rfl
  | cons hhead _ ih =>
    cases hhead with
    | filter => exact ih
    | sort => exact congrArg (List.cons _) ih
    | fetch => exact ih

end Relational

/-! ### Values of a select -/

namespace Sql

@[simp] theorem Statement.values_operand (grouped : Bool) (statement : Statement) :
    (statement.operand grouped).values = statement.values := by
  cases grouped <;> rfl

namespace Where

/-- A condition with another one behind it is their conjunction. -/
theorem ofExpr_and (left right : Expr) :
    (ofExpr left).and right = ofExpr (.join .conjunction left right) := by
  have hstatement : ∀ (isLeft : Bool) (e : Expr),
      e.statement.operand (e.needsParentheses .conjunction isLeft)
        = ⟨if e.needsParentheses .conjunction isLeft then Expr.parenthesised e.sql else e.sql,
          e.values⟩ := by
    intro isLeft e
    unfold Statement.operand
    split <;> rfl
  have hvalues : left.values ++ [] ++ right.values = left.values ++ right.values := by
    rw [List.append_nil]
  simp only [ofExpr, and, hstatement]
  exact congrArg (fun values => (⟨⟨_, values⟩, false, true⟩ : Where)) hvalues

theorem foldl_and_ofExpr (first : Expr) (rest : List Expr) :
    rest.foldl and (ofExpr first) = ofExpr (rest.foldl (.join .conjunction) first) := by
  induction rest generalizing first with
  | nil => rfl
  | cons second rest ih => rw [List.foldl_cons, ofExpr_and, ih, List.foldl_cons]

theorem values_foldl_and (condition : Where) (conditions : List Expr) :
    (conditions.foldl and condition).statement.values
      = condition.statement.values ++ conditions.flatMap Expr.values := by
  induction conditions generalizing condition with
  | nil => exact (List.append_nil _).symm
  | cons e rest ih =>
    have hand : (condition.and e).statement.values = condition.statement.values ++ e.values := by
      simp [Where.and, Statement.ofText, Expr.statement]
    rw [List.foldl_cons, ih, hand, List.flatMap_cons, List.append_assoc]

end Where

/-- Joined conditions have the values of all of them. -/
theorem Expr.values_all? {conditions : List Expr} {e : Expr} (h : all? conditions = some e) :
    e.values = conditions.flatMap Expr.values := by
  cases conditions with
  | nil => cases h
  | cons first rest =>
    cases h
    have hvalues := (Where.ofExpr first).values_foldl_and rest
    rw [Where.foldl_and_ofExpr] at hvalues
    exact hvalues

theorem Expr.eq_nil_of_all? {conditions : List Expr} (h : all? conditions = none) :
    conditions = [] := by
  cases conditions with
  | nil => rfl
  | cons first rest => cases h

theorem Where.values_andAll (condition : Where) (conditions : List Expr) :
    (condition.andAll conditions).statement.values
      = condition.statement.values ++ conditions.flatMap Expr.values := by
  unfold andAll
  split
  · exact condition.values_foldl_and conditions
  · cases hall : Expr.all? conditions with
    | none =>
      rw [Expr.eq_nil_of_all? hall]
      exact (List.append_nil _).symm
    | some e =>
      have hvalues := condition.values_foldl_and [e]
      rwa [List.flatMap_singleton, Expr.values_all? hall] at hvalues

namespace Clauses

/-- The values up to the conditions, which are the last of them. -/
def leading (clauses : Clauses) : List Value := clauses.head.values ++ clauses.whereClause.values

theorem values_whereClause_filtered (clauses : Clauses) (conditions : List Expr) :
    (clauses.filtered conditions).whereClause.values
      = clauses.whereClause.values ++ conditions.flatMap Expr.values := by
  unfold whereClause filtered
  cases clauses.condition with
  | some condition => exact condition.values_andAll conditions
  | none =>
    cases hall : Expr.all? conditions with
    | none =>
      rw [Expr.eq_nil_of_all? hall]
      rfl
    | some e => exact Expr.values_all? hall

theorem leading_filtered (clauses : Clauses) (conditions : List Expr) :
    (clauses.filtered conditions).leading
      = clauses.leading ++ conditions.flatMap Expr.values := by
  rw [leading, leading, values_whereClause_filtered, List.append_assoc]
  rfl

theorem values_orderClause (clauses : Clauses) :
    clauses.orderClause.values = clauses.order.flatMap Statement.values := by
  unfold orderClause
  split
  · rename_i hempty
    rw [List.isEmpty_iff.1 hempty]
    rfl
  · rfl

/-- Sort keys bind no values. -/
theorem values_orderClause_ordered (clauses : Clauses) (keys : List (Column × Direction)) :
    (clauses.ordered keys).orderClause.values = clauses.orderClause.values := by
  have hkeys : (keys.map fun key => Statement.ofText (orderKeyText key)).flatMap Statement.values
      = [] := by
    refine List.flatMap_eq_nil_iff.2 ?_
    intro statement hmem
    obtain ⟨key, -, rfl⟩ := List.mem_map.1 hmem
    rfl
  rw [values_orderClause, values_orderClause, ordered, List.flatMap_append, hkeys, List.append_nil]

theorem values_statement (clauses : Clauses) :
    clauses.statement.values = clauses.leading ++ clauses.grouping.values
      ++ clauses.orderClause.values ++ clauses.pageClause.values ++ clauses.tail.values := rfl

theorem values_count (clauses : Clauses) :
    clauses.count.values = clauses.leading ++ clauses.grouping.values ++ clauses.tail.values := by
  simp [count, Statement.ofText, values_statement, leading, whereClause, orderClause, pageClause,
    numberClause, Statement.empty]

end Clauses

end Sql

/-! ### The same text -/

/-- The statement has one placeholder for each of its values. -/
def Sql.Statement.Balanced (statement : Statement) : Prop :=
  Sql.placeholders statement.sql = statement.values.length

namespace Relational

/-- What the statements of a source carry.  These values stand behind the ones of the conditions
    that the source begins with, and the later clauses of the query that it begins with carry
    theirs behind them: a count has no order and no page, and a page has a limit and an offset of
    its own.  A fetch sends the count and, once a number is answered, the page. -/
structure Carries (source : Relational ι) (values : List Value) : Prop where
  query : source.select.statement.values
    = source.base.leading ++ values ++ source.base.grouping.values
      ++ source.base.orderClause.values ++ source.base.pageClause.values ++ source.base.tail.values
  count : source.select.count.values
    = source.base.leading ++ values ++ source.base.grouping.values ++ source.base.tail.values
  page (limit offset : Nat) : (source.pageSelect limit offset).statement.values
    = source.base.leading ++ values ++ source.base.grouping.values
      ++ source.base.orderClause.values ++ [.unsigned limit, .unsigned offset]
      ++ source.base.tail.values
  balanced : source.base.Marked → source.select.statement.Balanced ∧ source.select.count.Balanced ∧
    ∀ limit offset, (source.pageSelect limit offset).statement.Balanced
  sent (limit offset : Nat) : ∃ sent,
    (perform (.fetch limit offset) source).state.database.executed
        = source.database.executed ++ sent ∧
      ((∃ total, Database.countOf source.counted.2 = .ok total) ∧
          sent = [source.select.count, (source.pageSelect limit offset).statement] ∨
        (∃ error, (perform (.fetch limit offset) source).result = .error error) ∧
          sent = [source.select.count])

/-- The texts of the query, of the count and of all pages are those of another source. -/
structure SameText (source other : Relational ι) : Prop where
  query : source.select.statement.sql = other.select.statement.sql
  count : source.select.count.sql = other.select.count.sql
  page (limit offset limit' offset' : Nat) :
    (source.pageSelect limit offset).statement.sql
      = (other.pageSelect limit' offset').statement.sql

theorem carries_conditions (source : Relational ι) :
    Carries source (source.conditions.flatMap Expr.values) := by
  have hleading : source.select.leading
      = source.base.leading ++ source.conditions.flatMap Expr.values :=
    source.base.leading_filtered source.conditions
  have horder : source.select.orderClause.values = source.base.orderClause.values :=
    (source.base.filtered source.conditions).values_orderClause_ordered source.order
  have hmarked : source.base.Marked → source.select.Marked :=
    fun h => (h.filtered source.conditions).ordered source.order
  constructor
  · rw [Sql.Clauses.values_statement, hleading, horder]
    rfl
  · rw [Sql.Clauses.values_count, hleading]
    rfl
  · intro limit offset
    have hpaged : (source.pageSelect limit offset).statement.values
        = source.select.leading ++ source.base.grouping.values ++ source.select.orderClause.values
          ++ [.unsigned limit, .unsigned offset] ++ source.base.tail.values := rfl
    rw [hpaged, hleading, horder]
  · intro hbase
    have hselect := hmarked hbase
    exact ⟨hselect.statement.placeholders_eq, hselect.count.placeholders_eq,
      fun limit offset => (hselect.paged limit offset).statement.placeholders_eq⟩
  · exact fun limit offset => fetch_sends limit offset source

/-- After accepted calls the source carries what it carried before, and then what the calls
    bind. -/
theorem exists_carries_run (source : Relational ι) {commands : List Command}
    (h : ∀ command ∈ commands, command.Accepted) :
    ∃ bound, List.Forall₂ Command.Binds commands bound ∧
      Carries (run commands source) (source.conditions.flatMap Expr.values ++ bound.flatten) := by
  obtain ⟨bound, hbinds, hvalues⟩ := exists_binds h
  refine ⟨bound, hbinds, ?_⟩
  have hcarries := carries_conditions (run commands source)
  rwa [(extends_run source commands).conditions_eq, List.flatMap_append, hvalues] at hcarries

theorem sameText_run (source : Relational ι) {commands others : List Command}
    (halike : List.Forall₂ Command.Alike commands others)
    (haccepted : ∀ command ∈ commands, command.Accepted)
    (hothers : ∀ command ∈ others, command.Accepted) :
    SameText (run commands source) (run others source) := by
  have hfirst := extends_run source commands
  have hsecond := extends_run source others
  have hblank : (run commands source).conditions.map Expr.blank
      = (run others source).conditions.map Expr.blank := by
    rw [hfirst.conditions_eq, hsecond.conditions_eq, List.map_append, List.map_append,
      blank_conditions_eq halike haccepted hothers]
  have hselect : (run commands source).select.SameText (run others source).select := by
    rw [select, select, hfirst.base_eq, hsecond.base_eq, hfirst.order_eq, hsecond.order_eq,
      sortKeys_eq halike]
    exact (source.base.sameText_filtered hblank).ordered _
  constructor
  · exact hselect.statement
  · exact hselect.count
  · exact fun limit offset limit' offset' => (hselect.paged limit offset limit' offset').statement

end Relational

/-- **Request text never becomes SQL text.**  Accepted calls that agree in everything but the
    contents of parameters lead to the same texts, over any query.  The values of each statement
    are those of the query up to its conditions, then those of the conditions that were there,
    then those that the calls bind, call by call, and then those of the query's later clauses,
    where a page has its limit and offset.  A placeholder stands for every value if one stands
    for every value of the query. -/
theorem same_text_of_alike (source : Relational ι) {commands others : List Command}
    (halike : List.Forall₂ Command.Alike commands others)
    (haccepted : ∀ command ∈ commands, command.Accepted)
    (hothers : ∀ command ∈ others, command.Accepted) :
    Relational.SameText (run commands source) (run others source) ∧
      (∃ bound, List.Forall₂ Command.Binds commands bound ∧
        Relational.Carries (run commands source)
          (source.conditions.flatMap Expr.values ++ bound.flatten)) ∧
      ∃ bound, List.Forall₂ Command.Binds others bound ∧
        Relational.Carries (run others source)
          (source.conditions.flatMap Expr.values ++ bound.flatten) :=
  ⟨Relational.sameText_run source halike haccepted hothers,
    Relational.exists_carries_run source haccepted, Relational.exists_carries_run source hothers⟩

theorem marked_unsoldOwners : unsoldOwners.Marked where
  head := Sql.Statement.marked_ofText ⟨by decide, by decide⟩
  condition := by
    rintro condition ⟨⟩
    exact Sql.marked_expr _
  grouping := ⟨by decide, by decide⟩
  order := List.forall_mem_nil _
  tail := Sql.Statement.marked_empty

/-- A name that reads like SQL is asked for: it is bound as a value, and the text is the one for
    any other name. -/
theorem injected_owner_bound :
    let source : Relational Row :=
      .ofQuery "parcels" ["owner"] unsoldOwners ⟨[.count 0, .rows []], []⟩
    let commands (owner size part : String) : List Command :=
      [.filter "owner" .text .eq [owner], .filter "size" .integer .isIn [size, "2"],
        .filter "colour" .text .notContains [part], .filter "note" .text .empty [],
        .sort "size" .desc]
    let injected := run (commands "' OR '1'='1" "3" "100%") source
    Relational.SameText (run (commands "Ann" "1" "red") source) injected ∧
      (injected.pageSelect 10 20).statement.Balanced ∧
      (injected.pageSelect 10 20).statement
        = ⟨"SELECT \"owner\" FROM \"parcels\""
            ++ " WHERE \"sold\" = ? AND \"owner\" = ? AND \"size\" IN (?, ?)"
            ++ " AND (\"colour\" NOT LIKE ? ESCAPE '\\' OR \"colour\" IS NULL)"
            ++ " AND (\"note\" IS NULL OR \"note\" IN (?, ?))"
            ++ " GROUP BY \"owner\" HAVING COUNT(*) > ? ORDER BY \"size\" DESC LIMIT ? OFFSET ?",
          [.boolean false, .text "' OR '1'='1", .integer 3, .integer 2, .text "%100\\%%", .text "",
            .text "0", .integer 2, .unsigned 10, .unsigned 20]⟩ := by
  intro source commands injected
  have haccepted : ∀ command ∈ commands "Ann" "1" "red", command.Accepted := by
    simp only [commands, List.forall_mem_cons]
    exact ⟨⟨_, rfl⟩, ⟨_, rfl⟩, ⟨_, rfl⟩, ⟨_, rfl⟩, trivial, List.forall_mem_nil _⟩
  have hinjected : ∀ command ∈ commands "' OR '1'='1" "3" "100%", command.Accepted := by
    simp only [commands, List.forall_mem_cons]
    exact ⟨⟨_, rfl⟩, ⟨_, rfl⟩, ⟨_, rfl⟩, ⟨_, rfl⟩, trivial, List.forall_mem_nil _⟩
  have halike : List.Forall₂ Command.Alike (commands "Ann" "1" "red")
      (commands "' OR '1'='1" "3" "100%") :=
    .cons (.filter rfl) (.cons (.filter rfl) (.cons (.filter rfl) (.cons (.filter rfl)
      (.cons .sort .nil))))
  obtain ⟨hsame, -, bound, -, hcarries⟩ := same_text_of_alike source halike haccepted hinjected
  have hbase : injected.base = unsoldOwners := rfl
  exact ⟨hsame, (hcarries.balanced (hbase ▸ marked_unsoldOwners)).2.2 10 20, by decide +kernel⟩

/-- Values of a query's later clauses stand behind those of the filters, its own limit gives way
    to that of a page, and a parameter that the operator does not look at is not bound. -/
theorem later_clauses_bound_last :
    let source : Relational Row := .ofQuery "parcels" ["owner"] unsoldOwners ⟨[], []⟩
    let asked := run [.filter "owner" .text .eq ["Ann"]] source
    let surplus := run [.filter "owner" .text .eq ["Ann", "Bob"]] source
    asked.select.statement.values ≠ unsoldOwners.statement.values ++ [.text "Ann"] ∧
      (asked.pageSelect 10 0).statement.values
        ≠ unsoldOwners.statement.values ++ [.text "Ann", .unsigned 10, .unsigned 0] ∧
      (perform (.filter "owner" .text .eq ["Ann", "Bob"]) source).result = .ok none ∧
      surplus.select.statement.values
        = [.boolean false, .text "Ann", .integer 2, .unsigned 100] := by
  intro source asked surplus
  exact ⟨by decide +kernel, by decide +kernel, rfl, by decide +kernel⟩

end Listing
