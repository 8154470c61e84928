import FluentSql.Json.Printer
import FluentSql.Text.Join
import FluentSql.Value.Basic

/-! Values as literals of data definition statements. -/
namespace FluentSql.Value

def literal : Value → String
  | .null => "NULL"
  | .bool value => if value then "TRUE" else "FALSE"
  | .int value => Text.intText value.toInt
  | .float value => value.text Number.Layout.literal
  | .decimal value => value.text
  | .text value => Text.quoted value
  | .bytes value => "X'" ++ Text.hexBytes value ++ "'"
  | .date value => Text.quoted value.text
  | .time value => Text.quoted value.text
  | .dateTime value => Text.quoted value.secondsText
  | .timestamp value => Text.quoted value.utc.secondsText
  | .json value => Text.quoted value.print
  | .uuid value => Text.quoted value.text

end FluentSql.Value
