import FluentSql.Calendar.DateTime

/-! Components of dates and times, and the precision of truncated comparisons. -/
namespace FluentSql

/-- A component that statements pull out of a date or time column. -/
inductive DateField where
  | year
  | month
  | day
  | hour
  | minute
  | second
  | weekday
  | quarter
  | week
  deriving DecidableEq

def DateField.keyword : DateField → String
  | .year => "YEAR"
  | .month => "MONTH"
  | .day => "DAY"
  | .hour => "HOUR"
  | .minute => "MINUTE"
  | .second => "SECOND"
  | .weekday => "DOW"
  | .quarter => "QUARTER"
  | .week => "WEEK"

/-- The precision that truncation keeps. -/
inductive DatePart where
  | year
  | month
  | day
  | hour
  | minute
  | second
  deriving DecidableEq

namespace DatePart

def name : DatePart → String
  | .year => "year"
  | .month => "month"
  | .day => "day"
  | .hour => "hour"
  | .minute => "minute"
  | .second => "second"

/-- The date pattern that shows this precision and nothing finer. -/
def pattern : DatePart → String
  | .year => "%Y"
  | .month => "%Y-%m"
  | .day => "%Y-%m-%d"
  | .hour => "%Y-%m-%d %H"
  | .minute => "%Y-%m-%d %H:%i"
  | .second => "%Y-%m-%d %H:%i:%s"

/-- Month, day, hour, minute and second with all that is finer at its minimum. -/
def kept (part : DatePart) (moment : DateTime) : Nat × Nat × Nat × Nat × Nat :=
  let date := moment.date
  let time := moment.time
  match part with
  | .year => (1, 1, 0, 0, 0)
  | .month => (date.month, 1, 0, 0, 0)
  | .day => (date.month, date.day, 0, 0, 0)
  | .hour => (date.month, date.day, time.hour, 0, 0)
  | .minute => (date.month, date.day, time.hour, time.minute, 0)
  | .second => (date.month, date.day, time.hour, time.minute, time.second)

/-- Everything finer than the part at its minimum; a moment that cannot be rebuilt is returned as
it is. -/
def truncate (part : DatePart) (moment : DateTime) : DateTime :=
  let (m, d, h, min, s) := part.kept moment
  match Date.make? moment.date.year m d, Time.make? h min s 0 with
  | some date, some time => ⟨date, time⟩
  | _, _ => moment

end DatePart
end FluentSql
