import FluentSql.Calendar.DateTime
import FluentSql.Decimal.Basic
import FluentSql.Json.Basic
import FluentSql.Uuid

/-! Bound parameters and decoded column values. -/
namespace FluentSql

inductive Value where
  | null
  | bool (value : Bool)
  | int (value : Int64)
  | float (value : Double)
  | decimal (value : Decimal)
  | text (value : String)
  | bytes (value : List UInt8)
  | date (value : Date)
  | time (value : Time)
  | dateTime (value : DateTime)
  | timestamp (value : Timestamp)
  | json (value : Json)
  | uuid (value : Uuid)
  deriving DecidableEq, Inhabited

namespace Value

def isNull : Value → Bool
  | .null => true
  | _ => false

/-- The short name of a variant, as errors give it. -/
def kind : Value → String
  | .null => "null"
  | .bool _ => "bool"
  | .int _ => "int"
  | .float _ => "float"
  | .decimal _ => "decimal"
  | .text _ => "text"
  | .bytes _ => "bytes"
  | .date _ => "date"
  | .time _ => "time"
  | .dateTime _ => "datetime"
  | .timestamp _ => "timestamp"
  | .json _ => "json"
  | .uuid _ => "uuid"

end Value
end FluentSql
