import FluentSql.Row.Basic
import FluentSql.Value.Convert

/-! Rows as the types of a program. -/
namespace FluentSql

namespace Row

/-- Decode what was found under a name; a decode error carries that name. -/
def decodeNamed [FromValue α] (column : String) : Option Value → Except Halt α
  | none => .error (.failed (.decode column .absentColumn))
  | some value => (fromValue value).mapError fun error => .failed (error.atColumn column)

/-- Decode a column by name. -/
def get [FromValue α] (row : Row) (column : String) : Except Halt α :=
  row.value? column >>= decodeNamed column

/-- Decode a column by position; a decode error carries the name of the column there. -/
def getAt [FromValue α] (row : Row) (index : Nat) : Except Error α :=
  match row.values[index]? with
  | none => .error (.decode (Text.natText index) .indexOutOfRange)
  | some value => (fromValue value).mapError (Error.atColumn (row.columns[index]?.getD ""))

end Row

/-- Types that are built from a result row. -/
class FromRow (α : Type) where
  fromRow : Row → Except Halt α

export FromRow (fromRow)

instance : FromRow Row := ⟨.ok⟩

instance : FromRow (Entries Value) := ⟨fun row => .ok row.toEntries⟩

/-- The first column of a row. -/
structure Column (α : Type) where
  value : α

instance [FromValue α] : FromRow (Column α) := ⟨fun row => do
  let value ← row.getAt 0
  pure ⟨value⟩⟩

instance [FromValue α] [FromValue β] : FromRow (α × β) := ⟨fun row => do
  let first ← row.getAt 0
  let second ← row.getAt 1
  pure (first, second)⟩

instance [FromValue α] [FromValue β] [FromValue γ] : FromRow (α × β × γ) := ⟨fun row => do
  let first ← row.getAt 0
  let second ← row.getAt 1
  let third ← row.getAt 2
  pure (first, second, third)⟩

instance [FromValue α] [FromValue β] [FromValue γ] [FromValue δ] : FromRow (α × β × γ × δ) :=
  ⟨fun row => do
    let first ← row.getAt 0
    let second ← row.getAt 1
    let third ← row.getAt 2
    let fourth ← row.getAt 3
    pure (first, second, third, fourth)⟩

end FluentSql
