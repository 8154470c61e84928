import FluentSql.Dialect.Basic
import FluentSql.Execution
import FluentSql.Pagination
import FluentSql.Query.Render
import FluentSql.Row.Decode

/-! Reading with a builder: rows, single columns, counts, aggregates and pages. -/
namespace FluentSql

inductive Aggregate where
  | sum
  | avg
  | min
  | max
  deriving DecidableEq

def Aggregate.function : Aggregate → String
  | .sum => "SUM"
  | .avg => "AVG"
  | .min => "MIN"
  | .max => "MAX"

namespace Query

/-- The rows of the select, at most one of them. -/
def firstStatement (query : Query) : Except Error Statement := (query.setLimit 1).toSql

def pluckStatement (query : Query) (column : String) : Except Error Statement :=
  (query.select [column]).toSql

def countStatement (query : Query) : Except Error Statement := do
  query.check
  query.requireSelection
  pure query.renderCount

def aggregateStatement (query : Query) (aggregate : Aggregate) (column : String) :
    Except Error Statement := do
  query.check
  query.requireTable aggregate.function
  let call := aggregate.function ++ "(" ++ column ++ ")"
  pure (query.renderScalar (query.dialect.floatCast call))

/-- The window of a page, in place of a limit and an offset of the builder. -/
def page (query : Query) (page perPage : UInt64) : Query :=
  (query.setLimit perPage).setOffset (Pagination.offsetOf page perPage)

variable {σ : Type} [Backend σ]

def fetch (query : Query) (context : Context) (statement : Except Error Statement) :
    Task σ (List Row) := do
  query.connection.selectCached context (← Task.ofExcept statement) query.ttl?

/-- The first cell of the first row. -/
def fetchScalar [FromValue α] (query : Query) (context : Context)
    (statement : Except Error Statement) : Task σ α := do
  match (← query.fetch context statement).head? with
  | some row => Task.ofExcept (row.getAt 0)
  | none => Task.fail .noAggregateRow

def get [FromRow α] (query : Query) (context : Context) : Task σ (List α) := do
  let rows ← query.fetch context query.toSql
  Task.ofRow (rows.mapM fromRow)

def first [FromRow α] (query : Query) (context : Context) : Task σ (Option α) := do
  match (← query.fetch context query.firstStatement).head? with
  | some row => some <$> Task.ofRow (fromRow row)
  | none => pure none

/-- The row with an identity. -/
def find [FromRow α] (query : Query) (context : Context) (id : Value) : Task σ (Option α) :=
  (query.whereId id).first context

/-- The values of one column. -/
def pluck [FromValue α] (query : Query) (context : Context) (column : String) :
    Task σ (List α) := do
  let rows ← query.fetch context (query.pluckStatement column)
  Task.ofExcept (rows.mapM fun row => row.getAt 0)

def count (query : Query) (context : Context) : Task σ UInt64 :=
  query.fetchScalar context query.countStatement

def exists? (query : Query) (context : Context) : Task σ Bool := do
  pure ((← query.count context) > 0)

/-- Nothing when no rows match. -/
def aggregate (query : Query) (context : Context) (aggregate : Aggregate) (column : String) :
    Task σ (Option Double) :=
  query.fetchScalar context (query.aggregateStatement aggregate column)

/-- One page of rows. Pages and their sizes are at least one; a page past the last has no rows and
asks for none. -/
def paginate [FromRow α] (query : Query) (context : Context) (number perPage : UInt64) :
    Task σ (Pagination α) := do
  let number := Pagination.clamp number
  let perPage := Pagination.clamp perPage
  let total ← query.count context
  let lastPage := Pagination.lastPageOf total perPage
  let data ←
    if total = 0 ∨ lastPage < number then pure []
    else (query.page number perPage).get context
  pure ⟨data, total, perPage, number, lastPage⟩

end Query
end FluentSql
