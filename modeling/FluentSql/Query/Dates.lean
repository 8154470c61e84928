import FluentSql.Dialect.Dates
import FluentSql.Query.Basic

/-! Conditions on dates and times, in the words of a dialect. -/
namespace FluentSql

inductive DateCondition where
  | date (column op : String) (value : Date)
  | betweenDates (column : String) (first last : Date)
  | dateTime (column op : String) (value : DateTime)
  | betweenDateTimes (column : String) (first last : DateTime)
  | component (field : DateField) (column op : String) (value : Int64)
  | time (column op : String) (value : Time)
  | currentDate (column op : String)
  | lastDays (column : String) (days : Int64)
  | nextDays (column : String) (days : Int64)
  | weekend (column : String)
  | dateRange (column : String) (first last : Date) (inclusive : Bool)
  | betweenColumns (column first last : String)
  | age (column op : String) (years : Int64)
  | dateDiff (a b op : String) (days : Int64)
  | timeOverlap (start₁ end₁ start₂ end₂ : String)
  | truncated (part : DatePart) (column op : String) (value : DateTime)
  | timeWindow (column : String) (first last : Time)
  | businessDays (column : String)
  | formatted (column pattern op value : String)
  | timeZone (column op : String) (value : DateTime) (zone : String)

namespace DateCondition

def compared (expr op : String) : String := expr ++ " " ++ op ++ " ?"

def minutes (time : Time) : Value :=
  .int (Int64.ofInt (time.hour * 60 + time.minute : Nat))

/-- The condition's text and arguments. Only a conversion between time zones may be refused. -/
def render (dialect : Dialect) : DateCondition → Except Error Fragment
  | .date column op value => .ok ⟨compared (dialect.dateOf column) op, [.date value]⟩
  | .betweenDates column first last =>
    .ok ⟨dialect.dateOf column ++ " BETWEEN ? AND ?", [.date first, .date last]⟩
  | .dateTime column op value => .ok ⟨compared column op, [.dateTime value]⟩
  | .betweenDateTimes column first last =>
    .ok ⟨column ++ " BETWEEN ? AND ?", [.dateTime first, .dateTime last]⟩
  | .component field column op value =>
    .ok ⟨compared (dialect.extract field column) op, [.int value]⟩
  | .time column op value => .ok ⟨compared (dialect.timeOf column) op, [.time value]⟩
  | .currentDate column op =>
    .ok ⟨dialect.dateOf column ++ " " ++ op ++ " " ++ dialect.currentDate, []⟩
  | .lastDays column days =>
    .ok ⟨dialect.dateOf column ++ " >= " ++ dialect.addDays dialect.currentDate, [.int (-days)]⟩
  | .nextDays column days =>
    let date := dialect.dateOf column
    .ok ⟨"(" ++ date ++ " <= " ++ dialect.addDays dialect.currentDate ++ " AND " ++ date ++
      " >= " ++ dialect.currentDate ++ ")", [.int days]⟩
  | .weekend column => .ok ⟨dialect.extract .weekday column ++ " IN (0, 6)", []⟩
  | .dateRange column first last inclusive =>
    let date := dialect.dateOf column
    if inclusive then .ok ⟨date ++ " BETWEEN ? AND ?", [.date first, .date last]⟩
    else .ok ⟨"(" ++ date ++ " > ? AND " ++ date ++ " < ?)", [.date first, .date last]⟩
  | .betweenColumns column first last =>
    .ok ⟨dialect.dateOf column ++ " BETWEEN " ++ dialect.dateOf first ++ " AND " ++
      dialect.dateOf last, []⟩
  | .age column op years => .ok ⟨compared (dialect.ageYears column) op, [.int years]⟩
  | .dateDiff a b op days => .ok ⟨compared (dialect.dateDiff a b) op, [.int days]⟩
  | .timeOverlap start₁ end₁ start₂ end₂ => .ok ⟨dialect.overlaps start₁ end₁ start₂ end₂, []⟩
  | .truncated part column op value =>
    let (fragment, operand) := dialect.dateTrunc part column value
    .ok ⟨compared fragment.sql op, fragment.args ++ [operand]⟩
  | .timeWindow column first last =>
    .ok ⟨dialect.minuteOfDay column ++ " BETWEEN ? AND ?", [minutes first, minutes last]⟩
  | .businessDays column => .ok ⟨dialect.businessDay column, []⟩
  | .formatted column pattern op value =>
    let fragment := dialect.formatDate column pattern
    .ok ⟨compared fragment.sql op, fragment.args ++ [.text value]⟩
  | .timeZone column op value zone =>
    (dialect.convertTimezone column zone).map fun fragment =>
      ⟨compared fragment.sql op, fragment.args ++ [.dateTime value]⟩

end DateCondition

/-- A date condition joined to the others; one that the dialect refuses is a construction error. -/
def Query.whereDate (query : Query) (condition : DateCondition) : Query :=
  match condition.render query.dialect with
  | .ok fragment => query.andWhere fragment.sql fragment.args
  | .error error => query.fail error

end FluentSql
