import FluentSql.Calendar.DateTime

/-! Date patterns of three families: percent tokens as MySQL reads them, the bare letters of
`TO_CHAR`, and `strftime`. -/
namespace FluentSql.Pattern

/-- The `TO_CHAR` form of each known token. -/
def toCharTable : List (Char × String) := [
  ('Y', "YYYY"), ('y', "YY"), ('m', "MM"), ('c', "FMMM"), ('d', "DD"), ('e', "FMDD"),
  ('H', "HH24"), ('h', "HH12"), ('i', "MI"), ('s', "SS"), ('S', "SS"), ('p', "AM"),
  ('M', "FMMonth"), ('b', "Mon"), ('W', "FMDay"), ('a', "Dy"), ('j', "DDD"), ('%', "%")]

/-- The `strftime` form of each known token. -/
def strftimeTable : List (Char × String) := [
  ('Y', "%Y"), ('y', "%y"), ('m', "%m"), ('d', "%d"), ('e', "%e"), ('H', "%H"), ('h', "%I"),
  ('i', "%M"), ('s', "%S"), ('S', "%S"), ('p', "%p"), ('M', "%B"), ('b', "%b"), ('W', "%A"),
  ('a', "%a"), ('j', "%j"), ('%', "%%")]

/-- One step of a pattern: a percent sign with its letter, or any other character. -/
inductive Item where
  | token (letter : Char)
  | literal (char : Char)
  deriving DecidableEq

/-- A percent sign at the end stands for itself. -/
def items : List Char → List Item
  | [] => []
  | ['%'] => [.literal '%']
  | '%' :: letter :: rest => .token letter :: items rest
  | char :: rest => .literal char :: items rest

/-- A known token becomes its table entry, everything else stays as it is. -/
def Item.respell (table : List (Char × String)) : Item → List Char
  | .literal char => [char]
  | .token letter =>
    match table.find? fun entry => entry.1 == letter with
    | some (_, replacement) => replacement.toList
    | none => ['%', letter]

def respell (table : List (Char × String)) (pattern : String) : String :=
  String.ofList ((items pattern.toList).flatMap (Item.respell table))

def toChar (pattern : String) : String := respell toCharTable pattern

def strftime (pattern : String) : String := respell strftimeTable pattern

/-- The numeric `strftime` tokens of a moment; other tokens show nothing. -/
def Item.show (moment : DateTime) : Item → String
  | .literal char => String.ofList [char]
  | .token letter =>
    match letter with
    | 'Y' => Date.yearText moment.date.year
    | 'm' => Text.padded 2 moment.date.month
    | 'd' => Text.padded 2 moment.date.day
    | 'H' => Text.padded 2 moment.time.hour
    | 'M' => Text.padded 2 moment.time.minute
    | 'S' => Text.padded 2 moment.time.shownSecond
    | '%' => "%"
    | _ => ""

/-- A moment written by a `strftime` pattern. -/
def format (pattern : String) (moment : DateTime) : String :=
  ((items pattern.toList).map (Item.show moment)).foldl (· ++ ·) ""

end FluentSql.Pattern
