import FluentSql.Execution
import FluentSql.Row.Decode

/-! Hand-written statements with positional placeholders. -/
namespace FluentSql

structure Raw where
  connection : Connection
  sql : String
  args : List Value
  deriving DecidableEq

namespace Raw

variable {σ : Type} [Backend σ]

def fetchAll [FromRow α] (raw : Raw) (context : Context) : Task σ (List α) := do
  let rows ← raw.connection.select context raw.sql raw.args
  Task.ofRow (rows.mapM fromRow)

/-- The first row, if any. -/
def get [FromRow α] (raw : Raw) (context : Context) : Task σ (Option α) := do
  match ← raw.connection.get context raw.sql raw.args with
  | some row => some <$> Task.ofRow (fromRow row)
  | none => pure none

def exec (raw : Raw) (context : Context) : Task σ WriteResult :=
  raw.connection.exec context raw.sql raw.args

end Raw
end FluentSql
