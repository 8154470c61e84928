import FluentSql.Calendar.Reader
import FluentSql.Decimal.Reader
import FluentSql.Script.Reader
import FluentSql.Value.Serialized

/-! Values in scripts: plain JSON where that is enough, else an object with a tag. -/
namespace FluentSql.Script

def readDateTime (text : String) : Reading DateTime :=
  required ("date-time " ++ text) (Calendar.readSerializedDateTime text)

def readDate (text : String) : Reading Date :=
  required ("date " ++ text) (Calendar.readSerializedDate text)

def readTime (text : String) : Reading Time :=
  required ("time " ++ text) (Calendar.readSerializedTime text)

def value (json : Json) : Reading Value :=
  match json with
  | .null => .ok .null
  | .bool flag => .ok (.bool flag)
  | .int number => .ok (.int (Int64.ofInt number))
  | .string text => .ok (.text text)
  | tagged => do
    let content ← match member? tagged "value" with
      | some content => pure content
      | none => pure .null
    match ← string (← member tagged "type") with
    | "null" => pure .null
    | "bool" => pure (.bool (← bool content))
    | "int" => pure (.int (← int64 content))
    | "text" => pure (.text (← string content))
    | "float" => pure (.float (Double.ofWord (← hexWord (← string content))))
    | "decimal" => do
      pure (.decimal (← required "decimal" (Decimal.parse? (← string content).toList)))
    | "bytes" => pure (.bytes ((← listOf nat content).map UInt8.ofNat))
    | "date" => pure (.date (← readDate (← string content)))
    | "time" => pure (.time (← readTime (← string content)))
    | "date_time" => pure (.dateTime (← readDateTime (← string content)))
    | "timestamp" =>
      pure (.timestamp (← required "timestamp" (Calendar.readTimestamp (← string content))))
    | "json" => pure (.json content)
    | "uuid" => pure (.uuid (← required "uuid" (Uuid.parse? (← string content))))
    | other => .error ("value type " ++ other)

def values : Json → Reading (List Value) := listOf value

def pair (json : Json) : Reading (String × Value) := do
  match ← list json with
  | [key, content] => pure (← string key, ← value content)
  | _ => .error "no pair"

def pairs : Json → Reading (List (String × Value)) := listOf pair

def wordText (width word : Nat) : Json := .string (String.ofList (Text.hexDigits width word))

def doubleJson (number : Double) : Json := wordText 16 number.canonicalWord.toNat

def singleJson (number : Single) : Json := wordText 8 number.canonicalWord.toNat

def bytesJson (bytes : List UInt8) : Json := .array (bytes.map fun byte => natural byte.toNat)

def valueJson (value : Value) : Json :=
  let tagged (content : Json) : Json := object [("type", .string value.tag), ("value", content)]
  match value with
  | .null => object [("type", .string value.tag)]
  | .bool flag => tagged (.bool flag)
  | .int number => tagged (.int number.toInt)
  | .float number => tagged (doubleJson number)
  | .decimal number => tagged (.string number.text)
  | .text text => tagged (.string text)
  | .bytes bytes => tagged (bytesJson bytes)
  | .date date => tagged (.string date.text)
  | .time time => tagged (.string time.text)
  | .dateTime moment => tagged (.string moment.text)
  | .timestamp instant => tagged (.string instant.text)
  | .json json => tagged json
  | .uuid uuid => tagged (.string uuid.text)

def valuesJson (values : List Value) : Json := .array (values.map valueJson)

def statementJson (sql : String) (args : List Value) : Json :=
  object [("sql", .string sql), ("args", valuesJson args)]

end FluentSql.Script
