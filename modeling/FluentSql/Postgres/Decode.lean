import FluentSql.Json.Reader
import FluentSql.Postgres.Numeric
import FluentSql.Postgres.Type
import FluentSql.Error
import FluentSql.Row.Basic

/-! Result cells of a PostgreSQL server as values. -/
namespace FluentSql.Postgres

def readText? (bytes : Bytes) : Option String := String.fromUTF8? (ByteArray.mk bytes.toArray)

/-- One byte, anything but zero being true. -/
def readFlag? : Bytes → Option Bool
  | [byte] => some (byte != 0)
  | _ => none

def readJson? (bytes : Bytes) : Option Json := (readText? bytes).bind Json.parse?

/-- Types whose columns have values here. -/
def WireType.isReadable : WireType → Bool
  | .unknown | .other _ => false
  | _ => true

/-- The value of a cell that is not NULL. -/
def decode? (type : WireType) (bytes : Bytes) : Option Value :=
  let int (width : Nat) : Option Value :=
    (readInteger? width bytes).map fun value => .int (Int64.ofInt value)
  let text : Option Value := (readText? bytes).map .text
  match type with
  | .bool => (readFlag? bytes).map .bool
  | .int2 => int 2
  | .int4 => int 4
  | .int8 => int 8
  | .float4 => (readWord? 4 bytes).map fun word => .float (Single.ofWord word).toDouble
  | .float8 => (readWord? 8 bytes).map fun word => .float (Double.ofWord word)
  | .numeric => ((Numeric.ofBytes? bytes).bind Numeric.toDecimal?).map .decimal
  | .text | .varchar | .bpchar | .name => text
  | .bytea => some (.bytes bytes)
  | .date => (readDate? bytes).map .date
  | .time => (readTime? bytes).map .time
  | .timestamp => (readDateTime? bytes).map .dateTime
  | .timestamptz => (readDateTime? bytes).map fun moment => .timestamp ⟨moment⟩
  | .json => (readJson? bytes).map .json
  | .jsonb => match bytes with
    | 1 :: content => (readJson? content).map .json
    | _ => none
  | .uuid => (Uuid.ofBytes? bytes).map .uuid
  | .unknown | .other _ => none

/-- A result column: its name and its type. -/
abbrev ColumnHead := String × WireType

/-- A cell in its column; NULL does not make up for a type that is not readable. -/
def decodeCell (index : Nat) (column : ColumnHead) : Option Bytes → Except Error Value
  | cell =>
    if !column.2.isReadable then .error (.decode column.1 (.unsupportedType column.2.label))
    else match cell with
      | none => .ok .null
      | some bytes => match decode? column.2 bytes with
        | some value => .ok value
        | none => .error (.decode column.1 (.cell index))

/-- The cells of a row from column `index` on; the first that does not decode decides. -/
def decodeCells : (index : Nat) → List ColumnHead → List (Option Bytes) → Except Error (List Value)
  | _, [], _ => .ok []
  | index, column :: columns, cells => do
    let value ← decodeCell index column (cells.head?.join)
    let values ← decodeCells (index + 1) columns cells.tail
    pure (value :: values)

def decodeRow (columns : List ColumnHead) (cells : List (Option Bytes)) : Except Error Row := do
  let values ← decodeCells 0 columns cells
  pure ⟨columns.map Prod.fst, values⟩

end FluentSql.Postgres
