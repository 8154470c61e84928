import FluentSql.Calendar.Date
import FluentSql.Calendar.Time

/-! A date and a time of day together, with no zone of their own. -/
namespace FluentSql

structure DateTime where
  date : Date
  time : Time
  deriving DecidableEq

instance : Inhabited DateTime := ⟨⟨default, default⟩⟩

namespace DateTime

def text (moment : DateTime) : String := moment.date.text ++ "T" ++ moment.time.text

/-- Whole seconds, with a blank between date and time. -/
def secondsText (moment : DateTime) : String := moment.date.text ++ " " ++ moment.time.clockText

/-- Nanoseconds since the start of the wire's epoch. -/
def nanosecondsSinceEpoch (moment : DateTime) : Int :=
  moment.date.daysSinceEpoch * 86400000000000 + moment.time.nanosecondOfDay

/-- The moment some microseconds after the start of the wire's epoch, where the calendar has one. -/
def ofMicrosecondsSinceEpoch? (microseconds : Int) : Option DateTime :=
  let inDay := (microseconds % 86400000000).toNat
  (Date.ofDaysSinceEpoch? (microseconds / 86400000000)).map fun date =>
    ⟨date, Time.ofSecondOfDay (inDay / 1000000) (inDay % 1000000 * 1000)⟩

/-- The same instant at offset zero, for a clock that runs `minutes` ahead. -/
def minusMinutes? (moment : DateTime) (minutes : Int) : Option DateTime :=
  let seconds : Int := moment.time.secondOfDay - minutes * 60
  (Date.ofDayNumber? (moment.date.dayNumber + seconds / 86400)).map fun date =>
    ⟨date, Time.ofSecondOfDay (seconds % 86400).toNat moment.time.nanosecond⟩

end DateTime

/-- A moment in universal time. -/
structure Timestamp where
  utc : DateTime
  deriving DecidableEq, Inhabited

def Timestamp.text (instant : Timestamp) : String := instant.utc.text ++ "Z"

end FluentSql
