/-
  Listing/Proofs/Placeholders.lean
  ================================
  **The text of a statement and its placeholders.**

  A placeholder is a question mark outside of quotes; one in a quoted name is part of
  the name.  A reader of the text therefore has to know whether it stands in a name, in
  a text, or in the statement itself (`Zone`).  Every part of a statement closes the
  quotes that it opens, so the parts can be read one by one (`Marks.append`), and in the
  whole there is one placeholder for each value, if that is so in the parts that are
  not looked into (`Clauses.Marked.statement`).

  What the values are makes no difference to the text: the text of a condition is that
  of the condition with all values taken out (`Expr.sql_blank`), and a select that is
  given conditions with other values keeps its text (`Clauses.sameText_filtered`).
-/
import Listing.Sql.Select

namespace Listing.Sql

/-! ### Reading the text of a statement -/

/-- What the reader of a statement is in: the statement itself, a quoted name or a quoted
    text. -/
inductive Zone where
  | statement
  | name
  | text
deriving DecidableEq, Repr

namespace Zone

/-- Where the reader is after a character.  A quote that is written twice closes its zone and
    opens it again. -/
def next : Zone → Char → Zone
  | .statement, c => if c = '"' then .name else if c = '\x27' then .text else .statement
  | .name, c => if c = '"' then .statement else .name
  | .text, c => if c = '\x27' then .statement else .text

def after (zone : Zone) (text : List Char) : Zone := text.foldl next zone

/-- The question marks that are met in the statement itself. -/
def count (zone : Zone) : List Char → Nat
  | [] => 0
  | c :: rest => (if zone = .statement ∧ c = '?' then 1 else 0) + (zone.next c).count rest

theorem after_append (zone : Zone) (text more : List Char) :
    zone.after (text ++ more) = (zone.after text).after more :=
  List.foldl_append

theorem count_append (zone : Zone) (text more : List Char) :
    zone.count (text ++ more) = zone.count text + (zone.after text).count more := by
  induction text generalizing zone with
  | nil => simp only [List.nil_append, count, after, List.foldl_nil, Nat.zero_add]
  | cons c rest ih =>
    rw [List.cons_append, count, ih, count, Nat.add_assoc]
    rfl

end Zone

def placeholders (sql : String) : Nat := Zone.statement.count sql.toList

/-- The text has so many placeholders, and closes every quote that it opens. -/
structure Marks (sql : String) (n : Nat) : Prop where
  closed : Zone.statement.after sql.toList = .statement
  placeholders_eq : placeholders sql = n

namespace Marks

variable {sql more : String} {m n : Nat}

theorem append (h : Marks sql m) (hmore : Marks more n) : Marks (sql ++ more) (m + n) := by
  constructor
  · rw [String.toList_append, Zone.after_append, h.closed, hmore.closed]
  · rw [placeholders, String.toList_append, Zone.count_append, h.closed]
    rw [← h.placeholders_eq, ← hmore.placeholders_eq]
    rfl

theorem empty : Marks "" 0 := ⟨by decide, by decide⟩

theorem parenthesised (h : Marks sql n) : Marks (Expr.parenthesised sql) n := by
  have hopening : Marks "(" 0 := ⟨by decide, by decide⟩
  have hclosing : Marks ")" 0 := ⟨by decide, by decide⟩
  have hwhole := (hopening.append h).append hclosing
  rwa [Nat.zero_add, Nat.add_zero] at hwhole

/-- Parts between commas have placeholders for the values of all parts. -/
theorem intercalate {α β : Type} {part : α → String} {values : α → List β} {xs : List α}
    (h : ∀ x ∈ xs, Marks (part x) (values x).length) :
    Marks (", ".intercalate (xs.map part)) (xs.flatMap values).length := by
  induction xs with
  | nil =>
    rw [List.map_nil, String.intercalate_nil]
    exact empty
  | cons x rest ih =>
    obtain ⟨hpart, hrest⟩ := List.forall_mem_cons.1 h
    cases rest with
    | nil =>
      rw [List.map_singleton, String.intercalate_singleton, List.flatMap_singleton]
      exact hpart
    | cons y others =>
      have hcomma : Marks ", " 0 := ⟨by decide, by decide⟩
      rw [List.map_cons, List.map_cons, String.intercalate_cons_cons, List.flatMap_cons,
        List.length_append]
      exact (hpart.append hcomma).append (ih hrest)

/-- Parts between commas that have no placeholders have none together. -/
theorem intercalate_zero {α : Type} {part : α → String} {xs : List α}
    (h : ∀ x ∈ xs, Marks (part x) 0) : Marks (", ".intercalate (xs.map part)) 0 := by
  have hlist : Marks (", ".intercalate (xs.map part)) (xs.flatMap fun _ => ([] : List Unit)).length :=
    intercalate h
  rwa [List.flatMap_eq_nil_iff.2 fun _ _ => rfl] at hlist

end Marks

/-! ### Names -/

/-- A quoted name is closed where it ends, whatever is in it. -/
theorem marks_quoteName (name : String) : Marks (quoteName name) 0 := by
  have hinside : ∀ cs : List Char,
      Zone.name.after (cs.flatMap fun c => if c = '"' then ['"', '"'] else [c]) = .name ∧
        Zone.name.count (cs.flatMap fun c => if c = '"' then ['"', '"'] else [c]) = 0 := by
    intro cs
    induction cs with
    | nil => exact ⟨rfl, rfl⟩
    | cons c rest ih =>
      rw [List.flatMap_cons, Zone.after_append, Zone.count_append]
      by_cases hquote : c = '"'
      · rw [if_pos hquote]
        exact ⟨ih.1, (Nat.zero_add _).trans ih.2⟩
      · have hnext : Zone.name.after [c] = .name := if_neg hquote
        have hcount : Zone.name.count [c] = 0 := rfl
        rw [if_neg hquote, hnext, hcount]
        exact ⟨ih.1, (Nat.zero_add _).trans ih.2⟩
  have hlist : (quoteName name).toList = ['"']
      ++ name.toList.flatMap (fun c => if c = '"' then ['"', '"'] else [c]) ++ ['"'] := by
    rw [quoteName, String.toList_ofList]
    rfl
  have hopening : Zone.statement.after ['"'] = .name := rfl
  obtain ⟨hafter, hcount⟩ := hinside name.toList
  constructor
  · rw [hlist, Zone.after_append, Zone.after_append, hopening, hafter]
    rfl
  · rw [placeholders, hlist, Zone.count_append, Zone.count_append, Zone.after_append, hopening,
      hafter, hcount]
    rfl

theorem marks_column (column : Column) : Marks column.sql 0 := by
  unfold Column.sql
  cases column.table with
  | none => exact marks_quoteName column.name
  | some table =>
    have hdot : Marks "." 0 := ⟨by decide, by decide⟩
    exact ((marks_quoteName table).append hdot).append (marks_quoteName column.name)

/-! ### Conditions -/

theorem marks_sign (comparison : Comparison) : Marks (" " ++ comparison.sign ++ " ?") 1 := by
  cases comparison <;> exact ⟨by decide, by decide⟩

theorem marks_notText (negated : Bool) : Marks (Expr.notText negated) 0 := by
  cases negated <;> exact ⟨by decide, by decide⟩

theorem marks_word (connective : Connective) : Marks connective.word 0 := by
  cases connective <;> exact ⟨by decide, by decide⟩

/-- A condition has one placeholder for each of its values. -/
theorem marks_expr (e : Expr) : Marks e.sql e.values.length := by
  have hspace : Marks " " 0 := ⟨by decide, by decide⟩
  induction e with
  | compare column comparison value =>
    have hwhole := (marks_column column).append (marks_sign comparison)
    rwa [Nat.zero_add, ← String.append_assoc, ← String.append_assoc] at hwhole
  | isNull column negated =>
    have hnull : Marks "NULL" 0 := ⟨by decide, by decide⟩
    have his : Marks " IS " 0 := ⟨by decide, by decide⟩
    exact (((marks_column column).append his).append (marks_notText negated)).append hnull
  | isIn column negated values =>
    have hin : Marks "IN " 0 := ⟨by decide, by decide⟩
    have hmark : Marks "?" 1 := ⟨by decide, by decide⟩
    have hlist : Marks (", ".intercalate (values.map fun _ => "?"))
        (values.flatMap fun value => [value]).length := Marks.intercalate fun _ _ => hmark
    have hwhole := ((((marks_column column).append hspace).append (marks_notText negated)).append
      hin).append hlist.parenthesised
    rwa [List.flatMap_singleton', Nat.zero_add] at hwhole
  | like column negated pattern =>
    have hlike : Marks "LIKE ? ESCAPE '\\'" 1 := ⟨by decide, by decide⟩
    exact (((marks_column column).append hspace).append (marks_notText negated)).append hlike
  | between column negated low high =>
    have hbetween : Marks "BETWEEN ? AND ?" 2 := ⟨by decide, by decide⟩
    exact (((marks_column column).append hspace).append (marks_notText negated)).append hbetween
  | join connective left right ihleft ihright =>
    have hoperand : ∀ (isLeft : Bool) (e : Expr) {n : Nat}, Marks e.sql n →
        Marks (if e.needsParentheses connective isLeft then Expr.parenthesised e.sql else e.sql)
          n := by
      intro isLeft e n h
      split
      · exact h.parenthesised
      · exact h
    have hwhole := ((hoperand true left ihleft).append (marks_word connective)).append
      (hoperand false right ihright)
    rw [Expr.values, List.length_append]
    exact hwhole

/-! ### Statements -/

namespace Statement

/-- The statement has one placeholder for each of its values. -/
def Marked (statement : Statement) : Prop := Marks statement.sql statement.values.length

variable {first second : Statement}

theorem Marked.append (h : first.Marked) (hsecond : second.Marked) : (first ++ second).Marked := by
  rw [Marked, sql_append, values_append, List.length_append]
  exact Marks.append h hsecond

theorem marked_empty : empty.Marked := Marks.empty

theorem marked_ofText {sql : String} (h : Marks sql 0) : (ofText sql).Marked := h

theorem Marked.operand (h : first.Marked) (grouped : Bool) : (first.operand grouped).Marked := by
  unfold Statement.operand
  split
  · exact Marks.parenthesised h
  · exact h

end Statement

theorem marked_expr (e : Expr) : e.statement.Marked := marks_expr e

namespace Where

variable {condition : Where}

theorem marked_and (h : condition.statement.Marked) (e : Expr) :
    (condition.and e).statement.Marked := by
  have hword : (Statement.ofText Connective.conjunction.word).Marked :=
    Statement.marked_ofText (marks_word .conjunction)
  exact ((h.operand _).append hword).append ((marked_expr e).operand _)

theorem marked_foldl_and (h : condition.statement.Marked) (conditions : List Expr) :
    (conditions.foldl and condition).statement.Marked := by
  induction conditions generalizing condition with
  | nil => exact h
  | cons e rest ih => exact ih (marked_and h e)

theorem marked_andAll (h : condition.statement.Marked) (conditions : List Expr) :
    (condition.andAll conditions).statement.Marked := by
  unfold andAll
  split
  · exact marked_foldl_and h conditions
  · cases Expr.all? conditions with
    | none => exact h
    | some e => exact marked_and h e

end Where

namespace Clauses

/-- Every part of the select has one placeholder for each of its values. -/
structure Marked (clauses : Clauses) : Prop where
  head : clauses.head.Marked
  condition : ∀ condition ∈ clauses.condition, condition.statement.Marked
  grouping : clauses.grouping.Marked
  order : ∀ key ∈ clauses.order, key.Marked
  tail : clauses.tail.Marked

variable {clauses : Clauses}

theorem Marked.whereClause (h : clauses.Marked) : clauses.whereClause.Marked := by
  have hcondition := h.condition
  unfold Clauses.whereClause
  generalize clauses.condition = own at hcondition
  cases own with
  | none => exact Statement.marked_empty
  | some condition =>
    have hwhere : (Statement.ofText " WHERE ").Marked :=
      Statement.marked_ofText ⟨by decide, by decide⟩
    exact hwhere.append (hcondition condition rfl)

theorem Marked.orderClause (h : clauses.Marked) : clauses.orderClause.Marked := by
  have hkeys := h.order
  unfold Clauses.orderClause
  generalize clauses.order = order at hkeys
  split
  · exact Statement.marked_empty
  · have horder : Marks " ORDER BY " 0 := ⟨by decide, by decide⟩
    have hlist := horder.append (Marks.intercalate hkeys)
    rwa [Nat.zero_add] at hlist

theorem marked_pageClause (clauses : Clauses) : clauses.pageClause.Marked := by
  have hnumber : ∀ {text : String}, Marks text 1 → ∀ n, (numberClause text n).Marked := by
    intro text htext n
    cases n with
    | none => exact Statement.marked_empty
    | some n => exact htext
  have hlimit : Marks " LIMIT ?" 1 := ⟨by decide, by decide⟩
  have hoffset : Marks " OFFSET ?" 1 := ⟨by decide, by decide⟩
  exact (hnumber hlimit _).append (hnumber hoffset _)

/-- A select of which every part is marked has one placeholder for each of its values. -/
theorem Marked.statement (h : clauses.Marked) : clauses.statement.Marked :=
  ((((h.head.append h.whereClause).append h.grouping).append h.orderClause).append
    clauses.marked_pageClause).append h.tail

theorem Marked.filtered (h : clauses.Marked) (conditions : List Expr) :
    (clauses.filtered conditions).Marked := by
  refine { h with condition := ?_ }
  intro condition hcondition
  have hbase := h.condition
  simp only [Clauses.filtered] at hcondition
  cases hown : clauses.condition with
  | some own =>
    rw [hown] at hcondition
    cases hcondition
    exact Where.marked_andAll (hbase own hown) conditions
  | none =>
    rw [hown] at hcondition
    obtain ⟨e, -, rfl⟩ := Option.map_eq_some_iff.1 hcondition
    exact marked_expr e

theorem marked_orderKeyText (key : Column × Direction) :
    (Statement.ofText (orderKeyText key)).Marked := by
  have hspace : Marks " " 0 := ⟨by decide, by decide⟩
  have hdirection : Marks (directionWord key.2) 0 := by
    cases key.2 <;> exact ⟨by decide, by decide⟩
  exact ((marks_column key.1).append hspace).append hdirection

theorem Marked.ordered (h : clauses.Marked) (keys : List (Column × Direction)) :
    (clauses.ordered keys).Marked := by
  refine { h with order := ?_ }
  intro key hkey
  rcases List.mem_append.1 hkey with hkey | hkey
  · exact h.order key hkey
  · obtain ⟨added, -, rfl⟩ := List.mem_map.1 hkey
    exact marked_orderKeyText added

theorem Marked.paged (h : clauses.Marked) (limit offset : Nat) :
    (clauses.paged limit offset).Marked :=
  { h with }

theorem Marked.count (h : clauses.Marked) : clauses.count.Marked := by
  have hopening : (Statement.ofText ("SELECT COUNT(*) AS " ++ countColumn ++ " FROM (")).Marked :=
    Statement.marked_ofText ⟨by decide, by decide⟩
  have hclosing : (Statement.ofText (") AS " ++ quoteName "sub_query")).Marked :=
    Statement.marked_ofText ⟨by decide, by decide⟩
  have hinner : Marked { clauses with order := [], limit := none, offset := none } :=
    { h with order := List.forall_mem_nil _ }
  exact (hopening.append hinner.statement).append hclosing

end Clauses

/-- Every select from one table is marked, whatever its names and conditions are. -/
theorem Select.marked_clauses (select : Select) : select.clauses.Marked where
  head := by
    have hselect : Marks "SELECT " 0 := ⟨by decide, by decide⟩
    have hfrom : Marks " FROM " 0 := ⟨by decide, by decide⟩
    have hcolumns : Marks select.columnsText 0 := by
      unfold columnsText
      split
      · exact ⟨by decide, by decide⟩
      · exact Marks.intercalate_zero fun column _ => marks_column column
    exact ((hselect.append hcolumns).append hfrom).append (marks_quoteName select.table)
  condition := by
    intro condition hcondition
    obtain ⟨e, -, rfl⟩ := Option.map_eq_some_iff.1 hcondition
    exact marked_expr e
  grouping := Statement.marked_empty
  order := by
    intro key hkey
    obtain ⟨given, -, rfl⟩ := List.mem_map.1 hkey
    exact Clauses.marked_orderKeyText given
  tail := Statement.marked_empty

/-! ### Statements without their values -/

/-- The condition with its values taken out. -/
def Expr.blank : Expr → Expr
  | .compare column comparison _ => .compare column comparison (.integer 0)
  | .isNull column negated => .isNull column negated
  | .isIn column negated values => .isIn column negated (values.map fun _ => .integer 0)
  | .like column negated _ => .like column negated ""
  | .between column negated _ _ => .between column negated (.integer 0) (.integer 0)
  | .join connective left right => .join connective left.blank right.blank

namespace Expr

theorem needsParentheses_blank (connective : Connective) (isLeft : Bool) (e : Expr) :
    e.blank.needsParentheses connective isLeft = e.needsParentheses connective isLeft := by
  cases e <;> rfl

/-- Values do not get into the text of a condition. -/
theorem sql_blank (e : Expr) : e.blank.sql = e.sql := by
  induction e with
  | isIn column negated values => simp only [blank, sql, List.map_map, Function.comp_def]
  | join connective left right ihleft ihright =>
    simp only [blank, sql, needsParentheses_blank, ihleft, ihright]
  | _ => rfl

theorem all?_map_blank (conditions : List Expr) :
    (all? conditions).map blank = all? (conditions.map blank) := by
  have hjoin : ∀ (rest : List Expr) (first : Expr),
      (rest.foldl (join .conjunction) first).blank
        = (rest.map blank).foldl (join .conjunction) first.blank := by
    intro rest
    induction rest with
    | nil => exact fun _ => rfl
    | cons next rest ih => exact fun first => ih (join .conjunction first next)
  cases conditions with
  | nil => rfl
  | cons first rest => exact congrArg some (hjoin rest first)

/-! ### Conditions that differ in their values only -/

section SameBlank

variable {e d : Expr}

theorem sql_eq_of_blank (h : e.blank = d.blank) : e.sql = d.sql := by
  rw [← e.sql_blank, h, d.sql_blank]

theorem needsParentheses_eq_of_blank (h : e.blank = d.blank) (connective : Connective)
    (isLeft : Bool) :
    e.needsParentheses connective isLeft = d.needsParentheses connective isLeft := by
  rw [← e.needsParentheses_blank, h, d.needsParentheses_blank]

/-- They are joined to conditions that differ in their values only, if there are any. -/
theorem all?_cases_of_blank {conditions others : List Expr}
    (h : conditions.map blank = others.map blank) :
    (all? conditions = none ∧ all? others = none) ∨
      ∃ e d, all? conditions = some e ∧ all? others = some d ∧ e.blank = d.blank := by
  have hall : (all? conditions).map blank = (all? others).map blank := by
    rw [all?_map_blank, all?_map_blank, h]
  cases hfirst : all? conditions with
  | none =>
    rw [hfirst] at hall
    exact .inl ⟨rfl, Option.map_eq_none_iff.1 hall.symm⟩
  | some e =>
    rw [hfirst] at hall
    obtain ⟨d, hd, hblank⟩ := Option.map_eq_some_iff.1 hall.symm
    exact .inr ⟨e, d, rfl, hd, hblank.symm⟩

end SameBlank

end Expr

/-! ### Texts -/

/-- Conditions that differ in their values only. -/
structure Where.SameText (condition other : Where) : Prop where
  sql_eq : condition.statement.sql = other.statement.sql
  grouped_eq : condition.grouped = other.grouped
  joins_eq : condition.joins = other.joins

namespace Where

variable {condition other : Where}

theorem sameText_refl (condition : Where) : condition.SameText condition := ⟨rfl, rfl, rfl⟩

theorem sameText_ofExpr {e d : Expr} (h : e.blank = d.blank) : (ofExpr e).SameText (ofExpr d) :=
  ⟨Expr.sql_eq_of_blank h, Expr.needsParentheses_eq_of_blank h _ _, rfl⟩

theorem SameText.operand {first second : Statement} (h : first.sql = second.sql) (grouped : Bool) :
    (first.operand grouped).sql = (second.operand grouped).sql := by
  cases grouped with
  | true => exact congrArg Expr.parenthesised h
  | false => exact h

theorem SameText.and (h : condition.SameText other) {e d : Expr} (hblank : e.blank = d.blank) :
    (condition.and e).SameText (other.and d) := by
  have hleft := SameText.operand h.sql_eq condition.grouped
  have htext : e.statement.sql = d.statement.sql := Expr.sql_eq_of_blank hblank
  have hright := SameText.operand htext (e.needsParentheses .conjunction false)
  refine ⟨?_, rfl, rfl⟩
  simp only [Where.and, Statement.sql_append, hleft, hright, ← h.grouped_eq,
    ← Expr.needsParentheses_eq_of_blank hblank]

theorem SameText.foldl_and (h : condition.SameText other) {conditions others : List Expr}
    (hblank : conditions.map Expr.blank = others.map Expr.blank) :
    (conditions.foldl Where.and condition).SameText (others.foldl Where.and other) := by
  induction conditions generalizing condition other others with
  | nil =>
    cases List.map_eq_nil_iff.1 hblank.symm
    exact h
  | cons e rest ih =>
    obtain ⟨d, more, rfl, hd, hmore⟩ := List.map_eq_cons_iff.1 hblank.symm
    exact ih (h.and hd.symm) hmore.symm

theorem SameText.andAll (h : condition.SameText other) {conditions others : List Expr}
    (hblank : conditions.map Expr.blank = others.map Expr.blank) :
    (condition.andAll conditions).SameText (other.andAll others) := by
  unfold Where.andAll
  rw [← h.joins_eq]
  split
  · exact h.foldl_and hblank
  · rcases Expr.all?_cases_of_blank hblank with ⟨hnone, hother⟩ | ⟨e, d, he, hd, hsame⟩
    · rw [hnone, hother]
      exact h
    · rw [he, hd]
      exact h.and hsame

end Where

namespace Clauses

/-- Selects that differ in the values of their conditions, and in the numbers of their pages. -/
structure SameText (clauses other : Clauses) : Prop where
  head_eq : clauses.head = other.head
  where_eq : clauses.whereClause.sql = other.whereClause.sql
  grouping_eq : clauses.grouping = other.grouping
  order_eq : clauses.order = other.order
  page_eq : clauses.pageClause.sql = other.pageClause.sql
  tail_eq : clauses.tail = other.tail

variable {clauses other : Clauses}

theorem SameText.statement (h : clauses.SameText other) :
    clauses.statement.sql = other.statement.sql := by
  have horder : clauses.orderClause = other.orderClause := by
    rw [orderClause, orderClause, h.order_eq]
  simp only [Clauses.statement, Statement.sql_append, h.head_eq, h.where_eq, h.grouping_eq, horder,
    h.page_eq, h.tail_eq]

theorem SameText.count (h : clauses.SameText other) : clauses.count.sql = other.count.sql := by
  have hinner : SameText { clauses with order := [], limit := none, offset := none }
      { other with order := [], limit := none, offset := none } :=
    { h with order_eq := rfl, page_eq := rfl }
  simp only [Clauses.count, Statement.sql_append, hinner.statement]

theorem SameText.paged (h : clauses.SameText other) (limit offset limit' offset' : Nat) :
    (clauses.paged limit offset).SameText (other.paged limit' offset') :=
  { h with page_eq := rfl }

theorem SameText.ordered (h : clauses.SameText other) (keys : List (Column × Direction)) :
    (clauses.ordered keys).SameText (other.ordered keys) :=
  { h with
    order_eq := congrArg (· ++ keys.map fun key => Statement.ofText (orderKeyText key)) h.order_eq }

/-- Conditions that differ in their values only are joined to the same text. -/
theorem sameText_filtered (clauses : Clauses) {conditions others : List Expr}
    (hblank : conditions.map Expr.blank = others.map Expr.blank) :
    (clauses.filtered conditions).SameText (clauses.filtered others) := by
  refine ⟨rfl, ?_, rfl, rfl, rfl, rfl⟩
  unfold whereClause Clauses.filtered
  cases clauses.condition with
  | some condition =>
    exact congrArg (" WHERE " ++ ·) ((Where.sameText_refl condition).andAll hblank).sql_eq
  | none =>
    rcases Expr.all?_cases_of_blank hblank with ⟨hnone, hother⟩ | ⟨e, d, he, hd, hsame⟩
    · rw [hnone, hother]
    · rw [he, hd]
      exact congrArg (" WHERE " ++ ·) (Where.sameText_ofExpr hsame).sql_eq

end Clauses

end Listing.Sql
