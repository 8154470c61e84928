import FluentSql.Proofs.Placeholder.Conditions
import FluentSql.Proofs.Placeholder.Spread
import FluentSql.Query.Reads

/-! Builders with their arguments written into their clauses. A builder whose clauses are paired
with their arguments renders the same statements as one that has the arguments written in. -/
namespace FluentSql

open Placeholder

theorem Dialect.inert_floatCast (dialect : Dialect) (inert : Inert expr) :
    Inert (dialect.floatCast expr) := by
  cases dialect <;>
    exact ((inert.wrap (by decide) (by decide)).append (by decide)).append (by decide)

/-- An operand with its arguments written in. -/
def Operand.inlined (write : Value → String) (operand : Operand) : Operand :=
  { operand with sql := filled write operand.sql operand.args, args := [] }

/-- The arguments of a statement belong to its placeholders in order: there are as many of them,
and writing each argument at the placeholder of its number gives the text that was meant. -/
structure Bound (write : Value → String) (statement : Statement) (meant : String) : Prop where
  marks_eq : marks statement.sql = statement.args.length
  at_mark : ∀ place (present : place < statement.args.length),
    ∃ before after, statement.sql = before ++ "?" ++ after ∧ Balanced before ∧
      marks before = place ∧
      meant = filled write before (statement.args.take place) ++ write statement.args[place] ++
        filled write after (statement.args.drop (place + 1))

theorem bound_of_fills {write : Value → String} {statement : Statement} {meant : String}
    (fills : Fills write statement.sql statement.args meant) : Bound write statement meant where
  marks_eq := fills.paired.marks_eq
  at_mark := fills.at_mark

namespace Query

/-- A builder with every argument written at its placeholder. -/
def inlined (write : Value → String) (query : Query) : Query :=
  { query with
    columns := filledEach write query.columns query.columnArgs
    columnArgs := []
    conditions := query.conditions.inlined write
    having := filledEach write query.having query.havingArgs
    havingArgs := []
    operands := query.operands.map (Operand.inlined write) }

/-- The clauses of a builder have the placeholders of their arguments and close their quotes. -/
structure Paired (query : Query) : Prop where
  table : Inert query.table
  named : ∀ name ∈ query.alias?, Inert name
  columns : Spread query.columns query.columnArgs
  joins : ∀ join ∈ query.joins, Inert join.sql
  conditions : query.conditions.Paired
  groupBy : ∀ column ∈ query.groupBy, Inert column
  having : Spread query.having query.havingArgs
  orderBy : ∀ order ∈ query.orderBy, Inert order
  lock : ∀ lock ∈ query.lock?, Inert lock
  operands : ∀ operand ∈ query.operands, Placeholder.Paired operand.sql operand.args

theorem paired_new (connection : Connection) {target : String} (inert : Inert target) :
    (new connection target).Paired where
  table := inert
  named := by simp [new]
  columns := spread_nil
  joins := by simp [new]
  conditions := Conditions.paired_empty
  groupBy := by simp [new]
  having := spread_nil
  orderBy := by simp [new]
  lock := by simp [new]
  operands := by simp [new]

@[simp] theorem inlined_new (write : Value → String) (connection : Connection) (table : String) :
    (new connection table).inlined write = new connection table := rfl

section Frame

variable (write : Value → String) (query : Query)

@[simp] theorem dialect_inlined : (query.inlined write).dialect = query.dialect := rfl

@[simp] theorem table_inlined : (query.inlined write).table = query.table := rfl

@[simp] theorem fromClause_inlined : (query.inlined write).fromClause = query.fromClause := rfl

@[simp] theorem orderClause_inlined : (query.inlined write).orderClause = query.orderClause := rfl

@[simp] theorem operands_inlined :
    (query.inlined write).operands = query.operands.map (Operand.inlined write) := rfl

@[simp] theorem args_core_inlined : (query.inlined write).core.args = [] := by
  simp [core, groupArgs, inlined]

/-- A builder with the arguments written in has none left to bind. -/
@[simp] theorem args_render_inlined : (query.inlined write).render.args = [] := by
  cases held : query.operands with
  | nil => simp [render, held]
  | cons operand rest => simp [render, held, Operand.inlined]

end Frame

variable {write : Value → String} {query : Query}

theorem Paired.fills_columnList (paired : query.Paired) (write : Value → String) :
    Fills write query.columnList query.columnArgs (query.inlined write).columnList := by
  have listed := paired.columns.fills_join write inert_comma
  obtain ⟨fragments, texts, args, _⟩ := paired.columns
  cases fragments with
  | nil =>
    have star : Inert "*" := by decide
    simpa [columnList, inlined, texts, args, filledEach] using star.fills write
  | cons fragment fragments =>
    simp only [texts, List.map_cons, filledEach] at listed
    simpa [columnList, inlined, texts, filledEach, Text.commaList] using listed

theorem Paired.inert_fromClause (paired : query.Paired) : Inert query.fromClause := by
  have joined : Inert ((query.joins.map fun join => " " ++ join.sql).foldl (· ++ ·) "") := by
    apply inert_foldl
    intro text member
    obtain ⟨join, present, rfl⟩ := List.mem_map.mp member
    exact Inert.append (by decide) (paired.joins join present)
  refine Inert.append ?_ joined
  split
  · decide
  · have target : Inert (" FROM " ++ query.table) := Inert.append (by decide) paired.table
    split
    · rename_i name named
      exact target.append (Inert.append (by decide) (paired.named name (by simp [named])))
    · exact target.append (by decide)

theorem fills_whereClause (paired : query.conditions.Paired)
    (visible : ∀ value, write value ≠ "") :
    Fills write query.whereClause query.conditions.args (query.inlined write).whereClause := by
  have own := paired.fills_text visible
  have empty := own.eq_empty_iff visible
  simp only [whereClause, inlined, empty]
  split
  · rename_i nothing
    rw [nothing] at own
    rw [own.paired.args_eq_nil]
    exact inert_empty.fills write
  · exact own.after (by decide)

theorem Paired.fills_groupClause (paired : query.Paired) (write : Value → String) :
    Fills write query.groupClause query.groupArgs (query.inlined write).groupClause := by
  have grouped : Inert (if query.groupBy.isEmpty then "" else
      " GROUP BY " ++ Text.commaList query.groupBy) := by
    split
    · decide
    · exact Inert.append (by decide) (inert_join (by decide) paired.groupBy)
  have conjunction : Inert " AND " := by decide
  have listed := paired.having.fills_join write conjunction
  obtain ⟨fragments, texts, args, _⟩ := paired.having
  refine Fills.after grouped ?_
  cases fragments with
  | nil =>
    simpa [groupArgs, inlined, texts, args, filledEach] using inert_empty.fills write
  | cons fragment fragments =>
    have opening : Inert " HAVING " := by decide
    simp only [texts, List.map_cons, filledEach] at listed
    simpa [groupArgs, inlined, texts, filledEach] using listed.after opening

theorem Paired.inert_orderClause (paired : query.Paired) : Inert query.orderClause := by
  refine Inert.append (Inert.append ?_ ?_) ?_
  · split
    · decide
    · exact Inert.append (by decide) (inert_join (by decide) paired.orderBy)
  · split
    · exact Inert.append (by decide) (inert_natText _)
    · decide
  · split
    · exact Inert.append (by decide) (inert_natText _)
    · decide

theorem Paired.inert_lockClause (paired : query.Paired) : Inert query.lockClause := by
  unfold lockClause
  split
  · rename_i lock held
    split
    · exact Inert.append (by decide) (paired.lock lock (by simp [held]))
    · decide
  · decide

theorem Paired.fills_core (paired : query.Paired) (visible : ∀ value, write value ≠ "") :
    Fills write query.core.sql query.core.args (query.inlined write).core.sql := by
  have select : Inert "SELECT " := by decide
  have tables := (paired.fills_columnList write).before paired.inert_fromClause
  have filtered := tables.append (fills_whereClause paired.conditions visible)
  have grouped := filtered.append (paired.fills_groupClause write)
  simpa only [core, fromClause_inlined, String.append_assoc] using grouped.after select

theorem fills_wrapped (dialect : Dialect) (fills : Fills write sql held result) :
    Fills write (wrapped dialect sql) held (wrapped dialect result) := by
  unfold wrapped
  split
  · exact (fills.after (by decide)).before (by decide)
  · exact fills

/-- What a builder renders has its arguments where the builder with the arguments written in has
them. -/
theorem Paired.fills_render (paired : query.Paired) (visible : ∀ value, write value ≠ "") :
    Fills write query.render.sql query.render.args (query.inlined write).render.sql := by
  have core := paired.fills_core visible
  have order := paired.inert_orderClause
  simp only [render, operands_inlined, List.isEmpty_map]
  split
  · exact (core.before order).before paired.inert_lockClause
  · have each : ∀ operand ∈ query.operands, Fills write (operandText query.dialect operand)
        operand.args (operandText query.dialect (operand.inlined write)) := by
      intro operand member
      have own := (paired.operands operand member).fills write
      refine Fills.after ?_ (fills_wrapped query.dialect own)
      cases operand.all <;> decide
    have operands := fills_foldl (operandText query.dialect) Operand.args
      (fun operand => operandText query.dialect (operand.inlined write)) query.operands each
    have whole := ((fills_wrapped query.dialect core).append operands).before order
    simpa only [dialect_inlined, orderClause_inlined, List.map_map, Function.comp_def] using whole

theorem Paired.fills_renderScalar (paired : query.Paired) (visible : ∀ value, write value ≠ "")
    (inert : Inert expr) :
    Fills write (query.renderScalar expr).sql (query.renderScalar expr).args
      ((query.inlined write).renderScalar expr).sql := by
  have select : Inert "SELECT " := by decide
  have filtered := (fills_whereClause paired.conditions visible).after paired.inert_fromClause
  simpa only [renderScalar, fromClause_inlined, String.append_assoc] using
    filtered.after (select.append inert)

/-- The builder whose rows are counted where they are not those of its table. -/
def unordered (query : Query) : Query :=
  { query with orderBy := [], limit? := none, offset? := none, lock? := none }

/-- Whether the rows of a builder are not those of its table. -/
def isNested (query : Query) : Bool :=
  !query.groupBy.isEmpty || !query.operands.isEmpty || query.table = ""

theorem renderCount_eq (query : Query) :
    query.renderCount =
      if query.isNested then
        ⟨"SELECT COUNT(*) FROM (" ++ query.unordered.render.sql ++ ") AS sub",
          query.unordered.render.args⟩
      else query.renderScalar "COUNT(*)" := rfl

theorem isNested_inlined (write : Value → String) (query : Query) :
    (query.inlined write).isNested = query.isNested := by
  unfold isNested
  rw [operands_inlined, List.isEmpty_map]
  rfl

theorem unordered_inlined (write : Value → String) (query : Query) :
    (query.inlined write).unordered = query.unordered.inlined write := rfl

theorem Paired.unordered (paired : query.Paired) : query.unordered.Paired :=
  { paired with
    orderBy := by simp [Query.unordered]
    lock := by simp [Query.unordered] }

theorem Paired.fills_renderCount (paired : query.Paired) (visible : ∀ value, write value ≠ "") :
    Fills write query.renderCount.sql query.renderCount.args
      (query.inlined write).renderCount.sql := by
  have opening : Inert "SELECT COUNT(*) FROM (" := by decide
  have closing : Inert ") AS sub" := by decide
  have rows : Inert "COUNT(*)" := by decide
  rw [renderCount_eq, renderCount_eq, isNested_inlined, unordered_inlined]
  split
  · exact ((paired.unordered.fills_render visible).after opening).before closing
  · exact paired.fills_renderScalar visible rows

theorem args_renderCount_inlined (write : Value → String) (query : Query) :
    (query.inlined write).renderCount.args = [] := by
  rw [renderCount_eq, unordered_inlined]
  split
  · exact args_render_inlined write query.unordered
  · exact Conditions.args_inlined write query.conditions

theorem requireSelection_inlined (write : Value → String) (query : Query) :
    (query.inlined write).requireSelection = query.requireSelection := by
  have columns : (query.inlined write).columns = [] ↔ query.columns = [] := by
    cases held : query.columns <;> simp [inlined, held, filledEach]
  simp only [requireSelection, table_inlined, columns]

end Query
end FluentSql
