import FluentSql.Entries
import FluentSql.Error
import FluentSql.Record

/-! Records that are written together: all of them have the same columns. -/
namespace FluentSql

structure Batch where
  columns : List String
  rows : List (Entries Value)
  deriving DecidableEq

namespace Batch

def keys (row : Entries Value) : List String := row.map Prod.fst

/-- The first record from `index` on whose columns are not the expected ones. -/
def misfit? (expected : List String) : (index : Nat) → List (Entries Value) → Option Misuse
  | _, [] => none
  | index, row :: rest =>
    if keys row = expected then misfit? expected (index + 1) rest
    else some (.batchColumns index (keys row) expected)

/-- The columns of the first record, sorted, are those of all. -/
def collect (records : List Fields) : Except Error Batch :=
  match records.map Entries.ofPairs with
  | [] => .ok ⟨[], []⟩
  | first :: rest =>
    match misfit? (keys first) 1 rest with
    | some misuse => .error (.validation misuse)
    | none => .ok ⟨keys first, first :: rest⟩

def isEmpty (batch : Batch) : Bool := batch.rows.isEmpty

/-- The value of a column, NULL where a record has none. -/
def value (row : Entries Value) (column : String) : Value :=
  (Entries.find? row column).getD .null

/-- The values of all records, one record after another. -/
def values (batch : Batch) : List Value :=
  batch.rows.flatMap fun row => batch.columns.map (value row)

end Batch
end FluentSql
