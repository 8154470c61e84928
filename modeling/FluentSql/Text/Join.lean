/-! Texts put together from parts, and SQL text between single quotes, where a quote inside is
written twice. -/
namespace FluentSql.Text

/-- The parts in order, with `separator` between neighbours. -/
def join (separator : String) : List String → String
  | [] => ""
  | [part] => part
  | part :: next :: rest => part ++ separator ++ join separator (next :: rest)

def commaList (parts : List String) : String := join ", " parts

/-- `count` question marks as a comma list. -/
def placeholders (count : Nat) : String := commaList (List.replicate count "?")

def doubleQuotes : List Char → List Char
  | [] => []
  | '\'' :: rest => '\'' :: '\'' :: doubleQuotes rest
  | char :: rest => char :: doubleQuotes rest

def quoted (text : String) : String :=
  "'" ++ String.ofList (doubleQuotes text.toList) ++ "'"

end FluentSql.Text
