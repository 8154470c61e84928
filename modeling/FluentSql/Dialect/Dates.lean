import FluentSql.Calendar.Part
import FluentSql.Calendar.Pattern
import FluentSql.Dialect.Basic
import FluentSql.Value.Basic

/-! Date and time expressions of the backends. -/
namespace FluentSql

/-- An expression with the arguments of its placeholders. -/
structure Fragment where
  sql : String
  args : List Value
  deriving DecidableEq

namespace Dialect

def currentDate : Dialect → String
  | .mySql => "CURDATE()"
  | .postgres => "CURRENT_DATE"
  | .sqlite => "DATE('now')"

def dateOf (dialect : Dialect) (column : String) : String :=
  match dialect with
  | .postgres => "CAST(" ++ column ++ " AS DATE)"
  | _ => "DATE(" ++ column ++ ")"

def timeOf (dialect : Dialect) (column : String) : String :=
  match dialect with
  | .postgres => "CAST(" ++ column ++ " AS TIME)"
  | _ => "TIME(" ++ column ++ ")"

def strftimeInteger (token column : String) : String :=
  "CAST(strftime('" ++ token ++ "', " ++ column ++ ") AS INTEGER)"

def strftimeField (field : DateField) (column : String) : String :=
  match field with
  | .year => strftimeInteger "%Y" column
  | .month => strftimeInteger "%m" column
  | .day => strftimeInteger "%d" column
  | .hour => strftimeInteger "%H" column
  | .minute => strftimeInteger "%M" column
  | .second => strftimeInteger "%S" column
  | .weekday => strftimeInteger "%w" column
  | .week => strftimeInteger "%W" column
  | .quarter => "((" ++ strftimeInteger "%m" column ++ " + 2) / 3)"

/-- A component of a column as an integer. -/
def extract (dialect : Dialect) (field : DateField) (column : String) : String :=
  match dialect with
  | .mySql =>
    match field with
    | .weekday => "(DAYOFWEEK(" ++ column ++ ") - 1)"
    | .quarter => "QUARTER(" ++ column ++ ")"
    | .week => "WEEK(" ++ column ++ ", 3)"
    | field => "EXTRACT(" ++ field.keyword ++ " FROM " ++ column ++ ")"
  | .postgres => "CAST(EXTRACT(" ++ field.keyword ++ " FROM " ++ column ++ ") AS INTEGER)"
  | .sqlite => strftimeField field column

/-- An expression moved by a bound number of days. -/
def addDays (dialect : Dialect) (expr : String) : String :=
  match dialect with
  | .mySql => "DATE_ADD(" ++ expr ++ ", INTERVAL ? DAY)"
  | .postgres => "(" ++ expr ++ " + CAST(? AS INTEGER) * INTERVAL '1 day')"
  | .sqlite => "DATE(" ++ expr ++ ", printf('%+d days', ?))"

/-- Whole days from `b` to `a`. -/
def dateDiff (dialect : Dialect) (a b : String) : String :=
  match dialect with
  | .mySql => "DATEDIFF(" ++ a ++ ", " ++ b ++ ")"
  | .postgres => "DATE_PART('day', " ++ a ++ "::timestamp - " ++ b ++ "::timestamp)"
  | .sqlite => "CAST(julianday(" ++ a ++ ") - julianday(" ++ b ++ ") AS INTEGER)"

/-- A column cut to a precision, and the operand that compares with it. -/
def dateTrunc (dialect : Dialect) (part : DatePart) (column : String) (moment : DateTime) :
    Fragment × Value :=
  match dialect with
  | .mySql =>
    (⟨"DATE_FORMAT(" ++ column ++ ", ?)", [.text part.pattern]⟩,
      .text (Pattern.format (Pattern.strftime part.pattern) moment))
  | .postgres =>
    (⟨"DATE_TRUNC(?, " ++ column ++ ")", [.text part.name]⟩, .dateTime (part.truncate moment))
  | .sqlite =>
    (⟨"strftime(?, " ++ column ++ ")", [.text (Pattern.strftime part.pattern)]⟩,
      .text (Pattern.format (Pattern.strftime part.pattern) moment))

/-- A column written by a pattern, in the backend's own tokens. -/
def formatDate (dialect : Dialect) (column pattern : String) : Fragment :=
  match dialect with
  | .mySql => ⟨"DATE_FORMAT(" ++ column ++ ", ?)", [.text pattern]⟩
  | .postgres => ⟨"TO_CHAR(" ++ column ++ ", ?)", [.text (Pattern.toChar pattern)]⟩
  | .sqlite => ⟨"strftime(?, " ++ column ++ ")", [.text (Pattern.strftime pattern)]⟩

/-- A universal time column in a bound time zone, where the backend knows zones. -/
def convertTimezone (dialect : Dialect) (column zone : String) : Except Error Fragment :=
  match dialect with
  | .mySql => .ok ⟨"CONVERT_TZ(" ++ column ++ ", 'UTC', ?)", [.text zone]⟩
  | .postgres => .ok ⟨"(" ++ column ++ " AT TIME ZONE ?)", [.text zone]⟩
  | .sqlite => .error (.unsupported dialect.name "time zone conversion")

/-- Whole years since a column's date. -/
def ageYears (dialect : Dialect) (column : String) : String :=
  match dialect with
  | .mySql => "TIMESTAMPDIFF(YEAR, " ++ column ++ ", CURDATE())"
  | .postgres => "CAST(EXTRACT(YEAR FROM AGE(" ++ column ++ ")) AS INTEGER)"
  | .sqlite => "CAST((julianday('now') - julianday(" ++ column ++ ")) / 365.25 AS INTEGER)"

def overlaps (dialect : Dialect) (start₁ end₁ start₂ end₂ : String) : String :=
  match dialect with
  | .postgres =>
    "(" ++ start₁ ++ ", " ++ end₁ ++ ") OVERLAPS (" ++ start₂ ++ ", " ++ end₂ ++ ")"
  | _ => "(" ++ start₁ ++ " <= " ++ end₂ ++ " AND " ++ end₁ ++ " >= " ++ start₂ ++ ")"

/-- A condition that holds from Monday to Friday. -/
def businessDay (dialect : Dialect) (column : String) : String :=
  match dialect with
  | .mySql => "WEEKDAY(" ++ column ++ ") < 5"
  | .postgres => "EXTRACT(DOW FROM " ++ column ++ ") BETWEEN 1 AND 5"
  | .sqlite => "strftime('%w', " ++ column ++ ") NOT IN ('0', '6')"

def minuteOfDay (dialect : Dialect) (column : String) : String :=
  match dialect with
  | .mySql => "(HOUR(" ++ column ++ ") * 60 + MINUTE(" ++ column ++ "))"
  | .postgres =>
    "CAST(EXTRACT(HOUR FROM " ++ column ++ ") * 60 + EXTRACT(MINUTE FROM " ++ column ++
      ") AS INTEGER)"
  | .sqlite =>
    "(" ++ strftimeInteger "%H" column ++ " * 60 + " ++ strftimeInteger "%M" column ++ ")"

end Dialect
end FluentSql
