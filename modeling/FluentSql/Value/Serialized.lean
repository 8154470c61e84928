import FluentSql.Json.Printer
import FluentSql.Value.Basic

/-! The serialized text of values: the variant's tag before its content. -/
namespace FluentSql.Value

/-- The tag of a variant in serialized text. -/
def tag : Value → String
  | .null => "null"
  | .bool _ => "bool"
  | .int _ => "int"
  | .float _ => "float"
  | .decimal _ => "decimal"
  | .text _ => "text"
  | .bytes _ => "bytes"
  | .date _ => "date"
  | .time _ => "time"
  | .dateTime _ => "date_time"
  | .timestamp _ => "timestamp"
  | .json _ => "json"
  | .uuid _ => "uuid"

def byteList : List UInt8 → String
  | [] => ""
  | [byte] => Text.natText byte.toNat
  | byte :: next :: rest => Text.natText byte.toNat ++ "," ++ byteList (next :: rest)

/-- What stands after the tag; only null has nothing there. -/
def content : Value → Option String
  | .null => none
  | .bool value => some (if value then "true" else "false")
  | .int value => some (Text.intText value.toInt)
  | .float value => some (value.text Number.Layout.serialized)
  | .decimal value => some (Json.quote value.text)
  | .text value => some (Json.quote value)
  | .bytes value => some ("[" ++ byteList value ++ "]")
  | .date value => some (Json.quote value.text)
  | .time value => some (Json.quote value.text)
  | .dateTime value => some (Json.quote value.text)
  | .timestamp value => some (Json.quote value.text)
  | .json value => some value.print
  | .uuid value => some (Json.quote value.text)

def serialize (value : Value) : String :=
  match value.content with
  | none => "\x7b\"type\":\"" ++ value.tag ++ "\"\x7d"
  | some content => "\x7b\"type\":\"" ++ value.tag ++ "\",\"value\":" ++ content ++ "\x7d"

def serializeItems : List Value → String
  | [] => ""
  | [value] => value.serialize
  | value :: next :: rest => value.serialize ++ "," ++ serializeItems (next :: rest)

def serializeList (values : List Value) : String := "[" ++ serializeItems values ++ "]"

end FluentSql.Value
