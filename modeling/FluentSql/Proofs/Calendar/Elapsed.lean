import FluentSql.Proofs.Calendar.Order
import Mathlib.Algebra.BigOperators.Intervals

/-! Time gone by since the start of the year 2000, counted by the lengths of years and months. The
day numbers of dates and the nanoseconds of moments are that count, and a count of microseconds
gives the moment back. -/
namespace FluentSql

namespace Calendar

def daysInYear (year : Int) : Nat := if isLeapYear year then 366 else 365

/-- Days from the start of the year 2000 to the start of a year, negative for the years before. -/
def daysToYear (year : Int) : Int :=
  ∑ past ∈ Finset.range (year - 2000).toNat, (daysInYear (2000 + past) : Int) -
    ∑ ahead ∈ Finset.range (2000 - year).toNat, (daysInYear (1999 - ahead) : Int)

/-- Days from the start of a year to the start of a month. -/
def daysToMonth (year : Int) (month : Nat) : Nat :=
  ∑ whole ∈ Finset.Ico 1 month, daysInMonth year whole

end Calendar

open Calendar

namespace Date

/-- Days from the first of January 2000 to a date: whole years, whole months, and days. -/
def elapsedDays (date : Date) : Int :=
  daysToYear date.year + daysToMonth date.year date.month + (date.day - 1 : Nat)

/-- A year from March to March ends in the leap day of the next one from January. -/
theorem daysUntil_eq_pred (year : Int) :
    daysUntil year = daysUntil (year - 1) + daysInYear year := by
  unfold daysUntil daysInYear isLeapYear
  simp only [Bool.and_eq_true, Bool.or_eq_true, decide_eq_true_eq]
  split <;> omega

theorem sum_daysInYear_past (years : Nat) :
    ∑ past ∈ Finset.range years, (daysInYear (2000 + past) : Int) =
      daysUntil (1999 + years) - daysUntil 1999 := by
  induction years with
  | zero => simp
  | succ years ih =>
    have next := daysUntil_eq_pred (2000 + years)
    have before : (2000 : Int) + years - 1 = 1999 + years := by omega
    have here : (1999 : Int) + (years + 1 : Nat) = 2000 + years := by omega
    rw [before] at next
    rw [Finset.sum_range_succ, ih, here, next]
    omega

theorem sum_daysInYear_ahead (years : Nat) :
    ∑ ahead ∈ Finset.range years, (daysInYear (1999 - ahead) : Int) =
      daysUntil 1999 - daysUntil (1999 - years) := by
  induction years with
  | zero => simp
  | succ years ih =>
    have next := daysUntil_eq_pred (1999 - years)
    have before : (1999 : Int) - years - 1 = 1999 - (years + 1 : Nat) := by omega
    rw [before] at next
    rw [Finset.sum_range_succ, ih, next]
    omega

theorem daysToYear_eq (year : Int) : daysToYear year = daysUntil (year - 1) - daysUntil 1999 := by
  unfold daysToYear
  rw [sum_daysInYear_past, sum_daysInYear_ahead]
  rcases Int.le_total 2000 year with past | ahead
  · have years : (1999 : Int) + (year - 2000).toNat = year - 1 := by omega
    have none : (2000 - year).toNat = 0 := by omega
    rw [years, none]
    simp
  · have years : (1999 : Int) - (2000 - year).toNat = year - 1 := by omega
    have none : (year - 2000).toNat = 0 := by omega
    rw [years, none]
    simp

/-- Counted from the first of March of the year before, a month begins as many days later as the
months before it have. -/
theorem daysToMonth_eq (date : Date) :
    daysUntil (date.year - 1) + 306 + daysToMonth date.year date.month =
      daysUntil date.marchYear + daysBeforeMonth date.month := by
  obtain ⟨-, ⟨first, last⟩, -⟩ := date.valid
  have year := daysUntil_eq_pred date.year
  unfold daysToMonth marchYear
  generalize date.month = month at *
  cases leap : isLeapYear date.year <;> rw [daysInYear, leap] at year <;>
    interval_cases month <;>
      simp [Finset.sum_Ico_succ_top, daysInMonth, leap, daysBeforeMonth] at year ⊢ <;> omega

/-- Days are counted as the calendar has them. -/
theorem daysSinceEpoch_eq_elapsedDays (date : Date) : date.daysSinceEpoch = date.elapsedDays := by
  have months := date.daysToMonth_eq
  have start : epoch.dayNumber = daysUntil 1999 + 306 := by decide
  rw [daysSinceEpoch, dayNumber_eq_daysUntil, start, elapsedDays, daysToYear_eq, dayOfYear]
  push_cast
  omega

end Date

namespace DateTime

/-- Whole microseconds, and no leap second. -/
structure InMicroseconds (moment : DateTime) : Prop where
  whole : moment.time.nanosecond % 1000 = 0
  regular : moment.time.nanosecond < 1000000000

/-- Microseconds from the start of the year 2000 to a moment. -/
def elapsedMicroseconds (moment : DateTime) : Int :=
  moment.date.elapsedDays * (24 * 60 * 60 * 1000000) +
    (((moment.time.hour * 60 + moment.time.minute) * 60 + moment.time.second) * 1000000 +
      moment.time.nanosecond / 1000 : Nat)

theorem elapsedMicroseconds_eq (moment : DateTime) : moment.elapsedMicroseconds =
    moment.date.daysSinceEpoch * 86400000000 +
      (moment.time.secondOfDay * 1000000 + moment.time.nanosecond / 1000 : Nat) := by
  have seconds : (moment.time.hour * 60 + moment.time.minute) * 60 + moment.time.second =
      moment.time.secondOfDay := by
    unfold Time.secondOfDay
    omega
  rw [Date.daysSinceEpoch_eq_elapsedDays, ← seconds]
  rfl

variable {moment : DateTime}

theorem InMicroseconds.nanosecondsSinceEpoch_eq (exact : moment.InMicroseconds) :
    moment.nanosecondsSinceEpoch = 1000 * moment.elapsedMicroseconds := by
  have whole := exact.whole
  rw [elapsedMicroseconds_eq]
  unfold nanosecondsSinceEpoch Time.nanosecondOfDay
  omega

/-- No moment of the calendar is further away than a word of eight bytes counts. -/
theorem elapsedMicroseconds_bounds (moment : DateTime) :
    -(2 : Int) ^ 63 ≤ moment.elapsedMicroseconds ∧ moment.elapsedMicroseconds < 2 ^ 63 := by
  obtain ⟨⟨firstly, lastly⟩, -⟩ := moment.date.valid
  obtain ⟨-, -, -, nanoseconds⟩ := moment.time.valid
  have inDay := moment.time.secondOfDay_lt
  have inYear : moment.date.dayOfYear ≤ 365 := by
    have short := moment.date.dayOfYear_lt
    omega
  have start : Date.epoch.dayNumber = 730425 := by decide
  have years : -262144 ≤ moment.date.marchYear ∧ moment.date.marchYear ≤ 262142 := by
    unfold firstYear at firstly
    unfold lastYear at lastly
    unfold Date.marchYear
    split <;> omega
  have days : -97000000 ≤ moment.date.daysSinceEpoch ∧ moment.date.daysSinceEpoch ≤ 97000000 := by
    rw [Date.daysSinceEpoch, Date.dayNumber_eq_daysUntil, start]
    unfold Date.daysUntil
    omega
  rw [elapsedMicroseconds_eq]
  omega

/-- The moment comes back from the count. -/
theorem InMicroseconds.ofMicrosecondsSinceEpoch?_eq (exact : moment.InMicroseconds) :
    ofMicrosecondsSinceEpoch? moment.elapsedMicroseconds = some moment := by
  have whole := exact.whole
  have regular := exact.regular
  have inDay := moment.time.secondOfDay_lt
  have day : moment.elapsedMicroseconds / 86400000000 = moment.date.daysSinceEpoch := by
    rw [elapsedMicroseconds_eq]
    omega
  have rest : (moment.elapsedMicroseconds % 86400000000).toNat =
      moment.time.secondOfDay * 1000000 + moment.time.nanosecond / 1000 := by
    rw [elapsedMicroseconds_eq]
    omega
  have second : (moment.time.secondOfDay * 1000000 + moment.time.nanosecond / 1000) / 1000000 =
      moment.time.secondOfDay := by omega
  have nanosecond : (moment.time.secondOfDay * 1000000 + moment.time.nanosecond / 1000) % 1000000 *
      1000 = moment.time.nanosecond := by omega
  have date : Date.ofDaysSinceEpoch? moment.date.daysSinceEpoch = some moment.date := by
    rw [Date.ofDaysSinceEpoch?, Date.daysSinceEpoch, Int.sub_add_cancel,
      Date.ofDayNumber?_dayNumber]
  rw [ofMicrosecondsSinceEpoch?, day, rest, second, nanosecond, date, Option.map_some,
    Time.ofSecondOfDay_secondOfDay]

end DateTime
end FluentSql
