import FluentSql.Json.Basic
import FluentSql.Number.Written
import FluentSql.Text.Hex
import FluentSql.Text.Join

/-! JSON values as compact text. -/
namespace FluentSql.Json

/-- Quotes, backslashes and control characters are escaped, all else is written as it is. -/
def escapeChar (char : Char) : List Char :=
  if char = '"' then ['\\', '"']
  else if char = '\\' then ['\\', '\\']
  else if char = '\n' then ['\\', 'n']
  else if char = '\r' then ['\\', 'r']
  else if char = '\t' then ['\\', 't']
  else if char.toNat = 8 then ['\\', 'b']
  else if char.toNat = 12 then ['\\', 'f']
  else if char.toNat < 32 then '\\' :: 'u' :: Text.hexDigits 4 char.toNat
  else [char]

def quote (text : String) : String :=
  "\"" ++ String.ofList (text.toList.flatMap escapeChar) ++ "\""

mutual

def print : Json → String
  | .null => "null"
  | .bool value => if value then "true" else "false"
  | .int value => Text.intText value
  | .float value => value.text Number.Layout.serialized
  | .string text => quote text
  | .array items => "[" ++ printItems items ++ "]"
  | .object members => "\x7b" ++ printMembers members ++ "\x7d"

def printItems : List Json → String
  | [] => ""
  | [item] => print item
  | item :: next :: rest => print item ++ "," ++ printItems (next :: rest)

def printMembers : List (String × Json) → String
  | [] => ""
  | [(key, value)] => quote key ++ ":" ++ print value
  | (key, value) :: next :: rest =>
    quote key ++ ":" ++ print value ++ "," ++ printMembers (next :: rest)

end

end FluentSql.Json
