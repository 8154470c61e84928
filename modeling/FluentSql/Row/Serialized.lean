import FluentSql.Row.Basic
import FluentSql.Value.Reader
import FluentSql.Value.Serialized

/-! The serialized text of rows. -/
namespace FluentSql.Row
open Json (Source)

def serialize (row : Row) : String :=
  "\x7b\"columns\":" ++ (Json.array (row.columns.map Json.string)).print ++ ",\"values\":" ++
    Value.serializeList row.values ++ "\x7d"

def columns? : Source → Option (List String)
  | .array items => items.mapM fun
    | .string content => content
    | _ => none
  | _ => none

def values? (depth : Nat) : Source → Option (List Value)
  | .array items => items.mapM (Value.ofSource? depth)
  | _ => none

/-- An object with the two lists, other members left aside, or a list of the two. -/
def ofSource? (depth : Nat) : Source → Option Row
  | .object members => do
    let columns ← Value.uniqueMember "columns" members
    let values ← Value.uniqueMember "values" members
    pure ⟨← columns.bind columns?, ← values.bind (values? (depth - 2))⟩
  | .array [columns, values] => do
    pure ⟨← columns? columns, ← values? (depth - 2) values⟩
  | _ => none

def deserialize? (text : String) : Option Row :=
  (Source.parse? text.toList).bind (ofSource? Json.depthLimit)

end FluentSql.Row
