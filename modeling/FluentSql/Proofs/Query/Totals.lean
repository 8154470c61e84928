import FluentSql.Proofs.Placeholder.Builders
import FluentSql.Proofs.Query.Dispatch
import FluentSql.Query.Render
import Mathlib.Data.List.Infix

/-! What counts and aggregates range over. A count keeps every part of the select that determines
its rows, except conditions on groups where nothing is grouped; an aggregate sees the left operand
of a compound only. -/
namespace FluentSql.Query

/-! The parts of a select that determine its rows. -/

/-- What a builder shows to determine its rows, with some columns in front of it. -/
def ranging (query : Query) (columns : Statement) : Statement :=
  let own := "SELECT " ++ columns.sql ++ query.fromClause ++ query.whereClause ++ query.groupClause
  let args := columns.args ++ query.conditions.args ++ query.groupArgs
  if query.operands.isEmpty then ⟨own, args⟩
  else
    ⟨wrapped query.dialect own ++ String.join (query.operands.map (operandText query.dialect)),
      args ++ query.operands.flatMap Operand.args⟩

/-- The columns that a builder selects. -/
def selection (query : Query) : Statement := ⟨query.columnList, query.columnArgs⟩

/-- Ordering, limits and locks, which come last. -/
def ending (query : Query) : String :=
  query.orderClause ++ (if query.operands.isEmpty then query.lockClause else "")

theorem render_eq_ranging (query : Query) :
    query.render = ⟨(query.ranging query.selection).sql ++ query.ending,
      (query.ranging query.selection).args⟩ := by
  unfold render ranging ending
  split
  · simp only [core, selection, String.append_assoc]
  · simp only [core, selection, String.append_empty]
    rfl

theorem render_unordered (query : Query) :
    query.unordered.render = query.ranging query.selection := by
  have ending : query.unordered.ending = "" := by
    unfold Query.ending
    split <;> rfl
  rw [render_eq_ranging, ending, String.append_empty]
  rfl

/-- A select in the place of a table. -/
def enclosed (inner : Statement) : Statement :=
  ⟨"SELECT COUNT(*) FROM (" ++ inner.sql ++ ") AS sub", inner.args⟩

/-- A count over everything that determines the rows: with the number of rows in place of the
columns, or over the whole select. -/
inductive Ranges (query : Query) : Statement → Prop where
  | direct (single : query.isNested = false) : Ranges query (query.ranging ⟨"COUNT(*)", []⟩)
  | whole : Ranges query (enclosed (query.ranging query.selection))

theorem renderCount_of_nested {query : Query} (nested : query.isNested = true) :
    query.renderCount = enclosed (query.ranging query.selection) := by
  rw [renderCount_eq, if_pos nested, render_unordered]
  rfl

section Single

variable {query : Query} (single : query.isNested = false)
include single

theorem operands_eq_nil : query.operands = [] := by
  simp only [isNested, Bool.or_eq_false_iff, Bool.not_eq_false', List.isEmpty_iff] at single
  exact single.1.2

theorem groupBy_eq_nil : query.groupBy = [] := by
  simp only [isNested, Bool.or_eq_false_iff, Bool.not_eq_false', List.isEmpty_iff] at single
  exact single.1.1

/-- The count of a single table keeps all but the conditions on groups. -/
theorem renderCount_of_single :
    query.renderCount =
      { query with having := [], havingArgs := [] }.ranging ⟨"COUNT(*)", []⟩ := by
  have alone := operands_eq_nil single
  have ungrouped := groupBy_eq_nil single
  rw [renderCount_eq, single]
  simp only [Bool.false_eq_true, ↓reduceIte, renderScalar, ranging, alone, ungrouped, groupClause,
    groupArgs, List.isEmpty_nil, String.append_empty, List.nil_append, List.append_nil]
  rfl

theorem not_ranges_of_having (limited : query.having ≠ []) : ¬ query.Ranges query.renderCount := by
  have alone := operands_eq_nil single
  have ungrouped := groupBy_eq_nil single
  have shown : query.groupClause = " HAVING " ++ Text.join " AND " query.having := by
    simp only [groupClause, ungrouped, limited, List.isEmpty_nil, List.isEmpty_iff, ↓reduceIte,
      String.empty_append]
  have counted : query.renderCount.sql =
      "SELECT COUNT(*)" ++ query.fromClause ++ query.whereClause := by
    rw [renderCount_eq, single]
    rfl
  have keyword : " HAVING ".length = 8 := by decide
  have select : "SELECT ".length = 7 := by decide
  have scalar : "SELECT COUNT(*)".length = 15 := by decide
  -- The texts differ in length: what is counted lacks the conditions or the parentheses.
  intro ranges
  generalize same : query.renderCount = statement at ranges
  rw [same] at counted
  cases ranges with
  | direct _ =>
    have lengths := congrArg String.length counted
    have rows : "COUNT(*)".length = 8 := by decide
    simp only [ranging, alone, shown, List.isEmpty_nil, ↓reduceIte, String.length_append,
      keyword, select, rows, scalar] at lengths
    omega
  | whole =>
    have texts : "SELECT COUNT(*) FROM (" ++ (query.ranging query.selection).sql ++ ") AS sub" =
        "SELECT COUNT(*)" ++ query.fromClause ++ query.whereClause := counted
    have lengths := congrArg String.length texts
    have opening : "SELECT COUNT(*) FROM (".length = 22 := by decide
    have closing : ") AS sub".length = 8 := by decide
    simp only [ranging, alone, List.isEmpty_nil, ↓reduceIte, String.length_append, opening,
      closing, select, scalar] at lengths
    omega

end Single

/-- The count of a builder ranges over the rows of its select exactly where it has no conditions on
groups or is counted as a whole. -/
theorem ranges_renderCount_iff (query : Query) :
    query.Ranges query.renderCount ↔ query.having = [] ∨ query.isNested = true := by
  cases nested : query.isNested with
  | true =>
    rw [renderCount_of_nested nested]
    simp [Ranges.whole]
  | false =>
    constructor
    · intro ranges
      by_cases limited : query.having = []
      · exact Or.inl limited
      · exact absurd ranges (not_ranges_of_having nested limited)
    · rintro (unlimited | absurdity)
      · have direct := Ranges.direct nested
        rw [renderCount_of_single nested]
        have same : { query with having := [], havingArgs := [] }.ranging ⟨"COUNT(*)", []⟩ =
            query.ranging ⟨"COUNT(*)", []⟩ := by
          simp only [ranging, groupClause, groupArgs, unlimited, List.isEmpty_nil, ↓reduceIte]
          rfl
        rwa [same]
      · cases absurdity

/-- A builder that renders is counted. The count keeps everything that determines the rows of the
select, with its arguments in order, except where it has conditions on groups and is not counted as
a whole: there it is that of the builder without those conditions. The same statement counts, tells
whether there are rows and counts for a page. -/
theorem count_ranges_over_selected_rows (query : Query) (statement : Statement)
    (rendered : query.toSql = .ok statement) :
    statement = ⟨(query.ranging query.selection).sql ++ query.ending,
      (query.ranging query.selection).args⟩ ∧
    (∃ counted, query.countStatement = .ok counted ∧
      (query.Ranges counted ↔ query.having = [] ∨ query.isNested = true) ∧
      (query.isNested = false →
        counted = { query with having := [], havingArgs := [] }.ranging ⟨"COUNT(*)", []⟩)) ∧
    ∀ {σ α : Type} [Backend σ] [CacheBlind σ] [FromRow α] (context : Context)
      (world : World (Ledger σ)),
      query.Executes context (.ok statement) world
        ((query.get context : Task (Ledger σ) (List α)) world).2 ∧
      query.Executes context query.countStatement world
        ((query.count context : Task (Ledger σ) UInt64) world).2 ∧
      query.Executes context query.countStatement world
        ((query.exists? context : Task (Ledger σ) Bool) world).2 ∧
      ∀ number perPage, ∃ counted,
        query.Executes context query.countStatement world counted ∧
          (((query.paginate context number perPage :
              Task (Ledger σ) (Pagination α)) world).2 = counted ∨
            (query.page (Pagination.clamp number) (Pagination.clamp perPage)).Executes context
              (query.page (Pagination.clamp number) (Pagination.clamp perPage)).toSql counted
              ((query.paginate context number perPage :
                Task (Ledger σ) (Pagination α)) world).2) := by
  obtain ⟨renders, built⟩ := toSql_eq_ok_iff.mp rendered
  refine ⟨built.trans query.render_eq_ranging, ?_, ?_⟩
  · exact ⟨query.renderCount, renders.countStatement_eq, query.ranges_renderCount_iff,
      renderCount_of_single⟩
  · intro σ α _ _ _ context world
    refine ⟨?_, executes_count query context world, executes_exists query context world, ?_⟩
    · rw [← rendered]
      exact executes_get query context world
    · intro number perPage
      exact executes_paginate query context number perPage world

/-- Users with more than so many orders. -/
def busyUsers : Query :=
  (((new ⟨.pool, .mySql⟩ "orders").select ["user_id"]).setGroupBy ["user_id"]).havingRaw
    "COUNT(*) > ?" [.int 5]

theorem count_ranges_over_selected_rows_grouped :
    busyUsers.Ranges ⟨"SELECT COUNT(*) FROM (SELECT user_id FROM orders GROUP BY user_id " ++
      "HAVING COUNT(*) > ?) AS sub", [.int 5]⟩ := by
  have renders : busyUsers.Renders := ⟨rfl, rfl⟩
  obtain ⟨_, ⟨counted, counts, ranges, _⟩, _⟩ :=
    count_ranges_over_selected_rows busyUsers _ (toSql_eq_ok_iff.mpr ⟨renders, rfl⟩)
  have same : busyUsers.renderCount =
      ⟨"SELECT COUNT(*) FROM (SELECT user_id FROM orders GROUP BY user_id " ++
      "HAVING COUNT(*) > ?) AS sub", [.int 5]⟩ := by decide
  rw [renders.countStatement_eq] at counts
  cases counts
  rw [← same]
  exact ranges.mpr (Or.inr (by decide))

/-- Orders of a certain worth. The condition is on a column of the select, so it stands behind
HAVING. -/
def dearOrders : Query :=
  ((new ⟨.pool, .mySql⟩ "orders").select ["id", "price * amount AS total"]).havingRaw
    "total > ?" [.int 100]

theorem count_loses_conditions_on_groups :
    dearOrders.toSql =
        .ok ⟨"SELECT id, price * amount AS total FROM orders HAVING total > ?", [.int 100]⟩ ∧
      dearOrders.countStatement = .ok ⟨"SELECT COUNT(*) FROM orders", []⟩ ∧
      ¬ dearOrders.Ranges ⟨"SELECT COUNT(*) FROM orders", []⟩ := by
  have counted : dearOrders.renderCount = ⟨"SELECT COUNT(*) FROM orders", []⟩ := by decide
  refine ⟨?_, ?_, ?_⟩
  · exact toSql_eq_ok_iff.mpr ⟨⟨rfl, rfl⟩, by decide⟩
  · rw [Renders.countStatement_eq ⟨rfl, rfl⟩, counted]
  · rw [← counted]
    exact not_ranges_of_having (by decide) (by decide)

/-! Aggregates of compounds. -/

/-- Whether a statement has the text and the arguments of an operand in it. -/
def Contains (statement : Statement) (operand : Operand) : Prop :=
  operand.sql.toList <:+: statement.sql.toList ∧ operand.args <:+: statement.args

instance (statement : Statement) (operand : Operand) : Decidable (Contains statement operand) :=
  inferInstanceAs (Decidable (_ ∧ _))

theorem infix_operandText (dialect : Dialect) (operand : Operand) :
    operand.sql.toList <:+: (operandText dialect operand).toList := by
  have wrapping : operand.sql.toList <:+: (wrapped dialect operand.sql).toList := by
    unfold wrapped
    split
    · rw [String.toList_append, String.toList_append]
      exact List.infix_append _ _ _
    · exact List.infix_rfl
  refine wrapping.trans ?_
  rw [operandText, String.toList_append]
  exact (List.suffix_append _ _).isInfix

theorem contains_ranging (query : Query) (columns : Statement) {operand : Operand}
    (member : operand ∈ query.operands) : Contains (query.ranging columns) operand := by
  obtain ⟨before, after, split⟩ := List.append_of_mem member
  have compound : query.operands.isEmpty = false := by
    rw [split]
    cases before <;> rfl
  unfold ranging
  rw [compound]
  simp only [Bool.false_eq_true, ↓reduceIte]
  constructor
  · refine (infix_operandText query.dialect operand).trans ?_
    rw [split, List.map_append, List.map_cons, String.join_append, String.join_cons]
    simp only [String.toList_append, ← List.append_assoc]
    exact ⟨_, _, rfl⟩
  · rw [split, List.flatMap_append, List.flatMap_cons]
    simp only [← List.append_assoc]
    exact ⟨_, _, rfl⟩

theorem Contains.enclosed {statement : Statement} {operand : Operand}
    (contains : Contains statement operand) : Contains (enclosed statement) operand := by
  have text : (Query.enclosed statement).sql =
      "SELECT COUNT(*) FROM (" ++ statement.sql ++ ") AS sub" := rfl
  refine ⟨contains.1.trans ?_, contains.2⟩
  rw [text, String.toList_append, String.toList_append]
  exact List.infix_append _ _ _

/-- What an aggregate shows, and when it is refused. -/
theorem aggregateStatement_eq_ok_iff {query : Query} {aggregate : Aggregate} {column : String}
    {statement : Statement} :
    query.aggregateStatement aggregate column = .ok statement ↔
      query.check = .ok () ∧ query.table ≠ "" ∧
        statement = ⟨"SELECT " ++
          query.dialect.floatCast (aggregate.function ++ "(" ++ column ++ ")") ++
            query.fromClause ++ query.whereClause, query.conditions.args⟩ := by
  unfold aggregateStatement requireTable
  cases query.check with
  | error error => simp [bind, Except.bind]
  | ok _ =>
    by_cases tabled : query.table = ""
    · simp [tabled, bind, Except.bind]
    · simp [tabled, bind, Except.bind, pure, Except.pure, renderScalar, eq_comm]

/-- An aggregate ranges over the left operand of a compound: it is that of the builder without its
operands, and has the arguments of its conditions only. The count of the same compound has the text
and the arguments of every operand in it. -/
theorem aggregate_sees_left_operand (query : Query) (joined : query.operands ≠ [])
    (aggregate : Aggregate) (column : String) :
    query.aggregateStatement aggregate column =
      { query with operands := [] }.aggregateStatement aggregate column ∧
    (∀ statement, query.aggregateStatement aggregate column = .ok statement ↔
      query.check = .ok () ∧ query.table ≠ "" ∧
        statement = ⟨"SELECT " ++
          query.dialect.floatCast (aggregate.function ++ "(" ++ column ++ ")") ++
            query.fromClause ++ query.whereClause, query.conditions.args⟩) ∧
    (query.Renders → query.countStatement = .ok (enclosed (query.ranging query.selection)) ∧
      ∀ operand ∈ query.operands,
        Contains (enclosed (query.ranging query.selection)) operand) ∧
    ∀ {σ : Type} [Backend σ] [CacheBlind σ] (context : Context) (world : World (Ledger σ)),
      query.Executes context (query.aggregateStatement aggregate column) world
        ((query.aggregate context aggregate column :
          Task (Ledger σ) (Option Double)) world).2 ∧
      query.Executes context query.countStatement world
        ((query.count context : Task (Ledger σ) UInt64) world).2 := by
  refine ⟨rfl, fun statement => aggregateStatement_eq_ok_iff, ?_, ?_⟩
  · intro renders
    have nested : query.isNested = true := by
      simp [isNested, joined]
    refine ⟨?_, ?_⟩
    · rw [renders.countStatement_eq, renderCount_of_nested nested]
    · intro operand member
      exact (contains_ranging query query.selection member).enclosed
  · intro σ _ _ context world
    exact ⟨executes_aggregate query context aggregate column world,
      executes_count query context world⟩

/-- Totals of the present year and of those before. -/
def allOrders : Query :=
  ((new ⟨.pool, .mySql⟩ "orders").select ["total"]).unionAll
    (((new ⟨.pool, .mySql⟩ "archived_orders").select ["total"]).andWhere "year > ?" [.int 2020])

def archived : Operand :=
  ⟨true, "SELECT total FROM archived_orders WHERE year > ?", [.int 2020]⟩

theorem aggregate_sees_left_operand_union :
    allOrders.aggregateStatement .sum "total" =
        .ok ⟨"SELECT CAST(SUM(total) AS DOUBLE) FROM orders", []⟩ ∧
      ∃ counted, allOrders.countStatement = .ok counted ∧ Contains counted archived := by
  obtain ⟨_, sums, counts, _⟩ :=
    aggregate_sees_left_operand allOrders (by decide) .sum "total"
  obtain ⟨counted, contained⟩ := counts ⟨rfl, rfl⟩
  refine ⟨(sums _).mpr ⟨rfl, by decide, by decide⟩, _, counted, contained archived (by decide)⟩

theorem sum_misses_operand :
    ∃ summed, allOrders.aggregateStatement .sum "total" = .ok summed ∧
      ∃ operand ∈ allOrders.operands, ¬ Contains summed operand :=
  ⟨⟨"SELECT CAST(SUM(total) AS DOUBLE) FROM orders", []⟩,
    aggregateStatement_eq_ok_iff.mpr ⟨rfl, by decide, by decide⟩,
    archived, by decide, by decide⟩

end FluentSql.Query
