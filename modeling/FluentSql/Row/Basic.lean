import FluentSql.Entries
import FluentSql.Error
import FluentSql.Value.Basic

/-! Result rows: column names in select order with their values. -/
namespace FluentSql

/-- What ends the work on a row without a result. -/
inductive Halt where
  | failed (error : Error)
  /-- A value was taken from a place where there is none, which the program does not survive. -/
  | outOfBounds (length index : Nat)
  deriving DecidableEq

namespace Halt

def message : Halt → String
  | .failed error => error.message
  | .outOfBounds length index => "index out of bounds: the len is " ++ Text.natText length ++
      " but the index is " ++ Text.natText index

instance : MonadLift (Except Error) (Except Halt) := ⟨Except.mapError .failed⟩

end Halt

structure Row where
  columns : List String
  values : List Value
  deriving DecidableEq, Inhabited

namespace Row

def empty : Row := ⟨[], []⟩

def push (row : Row) (column : String) (value : Value) : Row :=
  ⟨row.columns ++ [column], row.values ++ [value]⟩

def ofPairs (pairs : List (String × Value)) : Row :=
  pairs.foldl (fun row pair => row.push pair.1 pair.2) empty

def length (row : Row) : Nat := row.values.length

def isEmpty (row : Row) : Bool := row.values.isEmpty

/-- The value of the first column of that name, taken from the place of that column. -/
def value? (row : Row) (column : String) : Except Halt (Option Value) :=
  match row.columns.idxOf? column with
  | none => .ok none
  | some index => match row.values[index]? with
    | some value => .ok (some value)
    | none => .error (.outOfBounds row.values.length index)

/-- The cells by column name, of equal names the last. -/
def toEntries (row : Row) : Entries Value := Entries.ofPairs (row.columns.zip row.values)

end Row
end FluentSql
