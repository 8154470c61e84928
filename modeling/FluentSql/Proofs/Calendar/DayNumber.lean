import FluentSql.Calendar.DateTime
import Mathlib.Tactic.IntervalCases

/-! Day numbers name dates, and seconds of a day name times: both come back from their numbers. -/
namespace FluentSql

namespace Calendar

/-- Days before a year of an era, which is a span of four hundred years from a first of March. -/
def daysBeforeYear (year : Nat) : Nat := 365 * year + year / 4 - year / 100

/-- Whether the leap day at the end of a year of an era is one that the calendar has. -/
def EndsInLeapDay (year : Nat) : Prop := year % 4 = 3 ∧ (year % 100 ≠ 99 ∨ year = 399)

/-- The year that a day of an era lies in. -/
def yearOfEra (dayOfEra : Nat) : Nat :=
  (dayOfEra - dayOfEra / 1460 + dayOfEra / 36524 - dayOfEra / 146096) / 365

theorem yearOfEra_daysBeforeYear {year day : Nat} (inEra : year < 400)
    (inYear : day < 365 ∨ day = 365 ∧ EndsInLeapDay year) :
    yearOfEra (daysBeforeYear year + day) = year := by
  unfold EndsInLeapDay at inYear
  -- the last day of an era would begin a fifth century
  by_cases last : daysBeforeYear year + day = 146096
  · unfold daysBeforeYear at last
    obtain rfl : year = 399 := by omega
    obtain rfl : day = 365 := by omega
    rfl
  obtain ⟨century, four, one, rfl, bounds, leap⟩ : ∃ century four one,
      year = 100 * century + 4 * four + one ∧ (century < 4 ∧ four < 25 ∧ one < 4) ∧
        (day < 365 ∨ day = 365 ∧ one = 3 ∧ (four ≠ 24 ∨ century = 3)) :=
    ⟨year / 100, year % 100 / 4, year % 4, by omega, by omega, by omega⟩
  have number : daysBeforeYear (100 * century + 4 * four + one) + day =
      36524 * century + 1461 * four + 365 * one + day := by
    unfold daysBeforeYear
    omega
  rw [number] at last ⊢
  clear number inYear
  have centuries : (36524 * century + 1461 * four + 365 * one + day) / 36524 = century := by omega
  have eras : (36524 * century + 1461 * four + 365 * one + day) / 146096 = 0 := by omega
  unfold yearOfEra
  rw [centuries, eras]
  omega

section DayOfYear

variable {year : Int} {month day : Nat}

theorem month_of_dayOfYear (valid : IsDay year month day) :
    (5 * (daysBeforeMonth month + (day - 1)) + 2) / 153 = (month + 9) % 12 := by
  obtain ⟨-, ⟨first, last⟩, low, high⟩ := valid
  have february : daysInMonth year 2 ≤ 29 := by
    rw [daysInMonth, if_pos rfl]
    split_ifs <;> decide
  unfold daysBeforeMonth
  interval_cases month <;> simp [daysInMonth] at high february ⊢ <;> omega

/-- Only a leap day is the last of 366 days. -/
theorem dayOfYear_lt (valid : IsDay year month day) :
    daysBeforeMonth month + (day - 1) < 365 ∨
      daysBeforeMonth month + (day - 1) = 365 ∧ month = 2 ∧ isLeapYear year = true := by
  obtain ⟨-, ⟨first, last⟩, low, high⟩ := valid
  cases leap : isLeapYear year <;> unfold daysBeforeMonth <;>
    interval_cases month <;> simp [daysInMonth, leap] at high ⊢ <;> omega

end DayOfYear

end Calendar

namespace Date
open Calendar

/-- The year that a date is in, when years start in March. -/
def marchYear (date : Date) : Int := if date.month ≤ 2 then date.year - 1 else date.year

def dayOfYear (date : Date) : Nat := daysBeforeMonth date.month + (date.day - 1)

theorem dayOfYear_lt (date : Date) : date.dayOfYear < 365 ∨
    date.dayOfYear = 365 ∧ EndsInLeapDay (date.marchYear % 400).toNat := by
  rcases Calendar.dayOfYear_lt date.valid with short | ⟨last, february, leap⟩
  · exact .inl short
  · refine .inr ⟨last, ?_⟩
    have year : date.marchYear = date.year - 1 := if_pos (by omega)
    simp only [isLeapYear, Bool.and_eq_true, Bool.or_eq_true, decide_eq_true_eq] at leap
    unfold EndsInLeapDay
    rw [year]
    omega

theorem dayNumber_eq (date : Date) : date.dayNumber = 146097 * (date.marchYear / 400) +
    (daysBeforeYear (date.marchYear % 400).toNat + date.dayOfYear : Nat) := by
  change 365 * date.marchYear + date.marchYear / 4 - date.marchYear / 100 +
    date.marchYear / 400 + daysBeforeMonth date.month + (date.day - 1 : Nat) = _
  unfold dayOfYear daysBeforeYear
  generalize date.marchYear = year
  omega

theorem ofDayNumber?_of_dayOfEra {number era : Int} {year day : Nat} (inEra : year < 400)
    (inYear : day < 365 ∨ day = 365 ∧ EndsInLeapDay year)
    (shape : number = 146097 * era + (daysBeforeYear year + day : Nat)) :
    ofDayNumber? number =
      let shifted := (5 * day + 2) / 153
      let month := if shifted < 10 then shifted + 3 else shifted - 9
      make? (era * 400 + year + if month ≤ 2 then 1 else 0) month
        (day - (153 * shifted + 2) / 5 + 1) := by
  have years := yearOfEra_daysBeforeYear inEra inYear
  have short : daysBeforeYear year + day < 146097 := by
    unfold EndsInLeapDay at inYear
    unfold daysBeforeYear
    omega
  have eras : number / 146097 = era := by omega
  have dayOfEra : (number % 146097).toNat = daysBeforeYear year + day := by omega
  have dayOfYear : daysBeforeYear year + day - (365 * year + year / 4 - year / 100) = day :=
    Nat.add_sub_cancel_left _ _
  unfold yearOfEra at years
  rw [ofDayNumber?, eras, dayOfEra, years, dayOfYear]

/-- A date comes back from its day number. -/
theorem ofDayNumber?_dayNumber (date : Date) : ofDayNumber? date.dayNumber = some date := by
  have month := month_of_dayOfYear date.valid
  obtain ⟨-, ⟨first, last⟩, low, -⟩ := date.valid
  rw [ofDayNumber?_of_dayOfEra (by omega) date.dayOfYear_lt date.dayNumber_eq]
  dsimp only
  have shifted : (5 * date.dayOfYear + 2) / 153 = (date.month + 9) % 12 := month
  have months : (if (date.month + 9) % 12 < 10 then (date.month + 9) % 12 + 3
      else (date.month + 9) % 12 - 9) = date.month := by
    split_ifs <;> omega
  have day : date.dayOfYear - (153 * ((date.month + 9) % 12) + 2) / 5 + 1 = date.day := by
    unfold dayOfYear daysBeforeMonth
    omega
  have year : date.marchYear / 400 * 400 + (date.marchYear % 400).toNat +
      (if date.month ≤ 2 then 1 else 0) = date.year := by
    unfold marchYear
    split_ifs <;> omega
  rw [shifted, months, day, year]
  exact dif_pos date.valid

end Date

namespace Time

theorem secondOfDay_lt (time : Time) : time.secondOfDay < 86400 := by
  obtain ⟨hours, minutes, seconds, -⟩ := time.valid
  unfold secondOfDay
  omega

/-- A time comes back from its seconds after midnight. -/
theorem ofSecondOfDay_secondOfDay (time : Time) :
    ofSecondOfDay time.secondOfDay time.nanosecond = time := by
  obtain ⟨hours, minutes, seconds, -⟩ := time.valid
  have hour : time.secondOfDay / 3600 = time.hour := by
    unfold secondOfDay
    omega
  have minute : time.secondOfDay / 60 % 60 = time.minute := by
    unfold secondOfDay
    omega
  have second : time.secondOfDay % 60 = time.second := by
    unfold secondOfDay
    omega
  rw [ofSecondOfDay, Nat.mod_eq_of_lt time.secondOfDay_lt, hour, minute, second, moment?,
    dif_pos time.valid]
  rfl

end Time

/-- A clock that does not run ahead shows universal time. -/
theorem DateTime.minusMinutes?_zero (moment : DateTime) : moment.minusMinutes? 0 = some moment := by
  have inDay := moment.time.secondOfDay_lt
  have days : ((moment.time.secondOfDay : Int) - 0 * 60) / 86400 = 0 := by omega
  have seconds : (((moment.time.secondOfDay : Int) - 0 * 60) % 86400).toNat =
      moment.time.secondOfDay := by omega
  rw [minusMinutes?, days, seconds, Int.add_zero, Date.ofDayNumber?_dayNumber,
    Time.ofSecondOfDay_secondOfDay]
  rfl

end FluentSql
