import FluentSql.Text.Digits

/-! Dates of the proleptic Gregorian calendar. -/
namespace FluentSql

namespace Calendar

def isLeapYear (year : Int) : Bool := year % 4 = 0 && (year % 100 ≠ 0 || year % 400 = 0)

def daysInMonth (year : Int) (month : Nat) : Nat :=
  if month = 2 then (if isLeapYear year then 29 else 28)
  else if month = 4 ∨ month = 6 ∨ month = 9 ∨ month = 11 then 30
  else 31

def firstYear : Int := -262143

def lastYear : Int := 262142

/-- Whether the three numbers name a day of a year that is kept. -/
def IsDay (year : Int) (month day : Nat) : Prop :=
  (firstYear ≤ year ∧ year ≤ lastYear) ∧ (1 ≤ month ∧ month ≤ 12) ∧
    1 ≤ day ∧ day ≤ daysInMonth year month

instance (year : Int) (month day : Nat) : Decidable (IsDay year month day) :=
  inferInstanceAs (Decidable (_ ∧ _ ∧ _))

/-- Days before the first of `month`, counting from the first of March. -/
def daysBeforeMonth (month : Nat) : Nat := (153 * ((month + 9) % 12) + 2) / 5

end Calendar

open Calendar

structure Date where
  year : Int
  month : Nat
  day : Nat
  valid : IsDay year month day
  deriving DecidableEq

namespace Date

def make? (year : Int) (month day : Nat) : Option Date :=
  if valid : IsDay year month day then some ⟨year, month, day, valid⟩ else none

/-- The day on which the day count of the wire starts. -/
def epoch : Date := ⟨2000, 1, 1, by decide⟩

instance : Inhabited Date := ⟨epoch⟩

/-- Days since the first of March of year zero. Years start in March, so that a leap day is the
last of its year. -/
def dayNumber (date : Date) : Int :=
  let year := if date.month ≤ 2 then date.year - 1 else date.year
  365 * year + year / 4 - year / 100 + year / 400 + daysBeforeMonth date.month +
    (date.day - 1 : Nat)

/-- The date with a given day number, where the calendar has one. -/
def ofDayNumber? (number : Int) : Option Date :=
  let era := number / 146097
  let dayOfEra := (number % 146097).toNat
  let yearOfEra :=
    (dayOfEra - dayOfEra / 1460 + dayOfEra / 36524 - dayOfEra / 146096) / 365
  let dayOfYear := dayOfEra - (365 * yearOfEra + yearOfEra / 4 - yearOfEra / 100)
  let shifted := (5 * dayOfYear + 2) / 153
  let day := dayOfYear - (153 * shifted + 2) / 5 + 1
  let month := if shifted < 10 then shifted + 3 else shifted - 9
  let year := era * 400 + yearOfEra + (if month ≤ 2 then 1 else 0)
  make? year month day

/-- Days since the wire's epoch. -/
def daysSinceEpoch (date : Date) : Int := date.dayNumber - epoch.dayNumber

def ofDaysSinceEpoch? (days : Int) : Option Date := ofDayNumber? (days + epoch.dayNumber)

/-- Four digits for the years 0 to 9999, a sign and at least four digits for all others. -/
def yearText (year : Int) : String :=
  if 0 ≤ year ∧ year ≤ 9999 then Text.padded 4 year.toNat
  else (if year < 0 then "-" else "+") ++ Text.padded 4 year.natAbs

def text (date : Date) : String :=
  yearText date.year ++ "-" ++ Text.padded 2 date.month ++ "-" ++ Text.padded 2 date.day

end Date
end FluentSql
