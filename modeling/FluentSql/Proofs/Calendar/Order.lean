import FluentSql.Proofs.Calendar.DayNumber
import FluentSql.Proofs.Text.Order
import Mathlib.Order.Defs.PartialOrder

/-! Dates and moments in the order of time. Going by their components, from the year down to the
nanosecond, gives the same order. -/
namespace FluentSql

namespace Date
open Calendar

/-- The day number on which a year that starts in March begins. -/
def daysUntil (year : Int) : Int := 365 * year + year / 4 - year / 100 + year / 400

theorem dayNumber_eq_daysUntil (date : Date) :
    date.dayNumber = daysUntil date.marchYear + date.dayOfYear := by
  change daysUntil date.marchYear + daysBeforeMonth date.month + (date.day - 1 : Nat) = _
  rw [dayOfYear, Int.natCast_add, Int.add_assoc]

theorem daysUntil_succ (year : Int) : daysUntil year + 365 ≤ daysUntil (year + 1) := by
  unfold daysUntil
  omega

theorem daysUntil_succ_of_leapDay {year : Int} (leap : EndsInLeapDay (year % 400).toNat) :
    daysUntil year + 366 ≤ daysUntil (year + 1) := by
  unfold EndsInLeapDay at leap
  unfold daysUntil
  omega

theorem daysUntil_le {year other : Int} (notAfter : year ≤ other) :
    daysUntil year ≤ daysUntil other := by
  unfold daysUntil
  omega

theorem dayNumber_lt_of_marchYear {date other : Date} (before : date.marchYear < other.marchYear) :
    date.dayNumber < other.dayNumber := by
  have years : daysUntil (date.marchYear + 1) ≤ daysUntil other.marchYear :=
    daysUntil_le before
  have own : daysUntil date.marchYear + date.dayOfYear < daysUntil (date.marchYear + 1) := by
    rcases date.dayOfYear_lt with short | ⟨last, leap⟩
    · have step := daysUntil_succ date.marchYear
      omega
    · have step := daysUntil_succ_of_leapDay leap
      omega
  rw [dayNumber_eq_daysUntil, dayNumber_eq_daysUntil]
  omega

/-- What comes first by year, month and day comes first by day number. January and February stand
at the end of a year that starts in March, so the two ways to count years are compared first. -/
theorem dayNumber_lt_of_components {date other : Date}
    (before : date.year < other.year ∨ date.year = other.year ∧
      (date.month < other.month ∨ date.month = other.month ∧ date.day < other.day)) :
    date.dayNumber < other.dayNumber := by
  obtain ⟨-, ⟨first, last⟩, low, -⟩ := date.valid
  obtain ⟨-, ⟨first', last'⟩, low', -⟩ := other.valid
  by_cases apart : date.marchYear < other.marchYear
  · exact dayNumber_lt_of_marchYear apart
  · have years : date.marchYear = other.marchYear ∧
        ((date.month + 9) % 12 < (other.month + 9) % 12 ∨
          date.month = other.month ∧ date.day < other.day) := by
      unfold marchYear at *
      split_ifs at * <;> omega
    have days : date.dayOfYear < other.dayOfYear := by
      rcases years.2 with months | ⟨month, day⟩
      · have own : (5 * date.dayOfYear + 2) / 153 = (date.month + 9) % 12 :=
          month_of_dayOfYear date.valid
        have others : (5 * other.dayOfYear + 2) / 153 = (other.month + 9) % 12 :=
          month_of_dayOfYear other.valid
        omega
      · unfold dayOfYear
        rw [month]
        omega
    rw [dayNumber_eq_daysUntil, dayNumber_eq_daysUntil, years.1]
    omega

/-- Year, month and day. -/
def components (date : Date) : List Int := [date.year, date.month, date.day]

theorem components_injective : Function.Injective components := by
  intro date other same
  obtain ⟨year, month, day, valid⟩ := date
  obtain ⟨year', month', day', valid'⟩ := other
  simpa [components] using same

theorem components_lt_iff {date other : Date} :
    date.components < other.components ↔ date.year < other.year ∨ date.year = other.year ∧
      (date.month < other.month ∨ date.month = other.month ∧ date.day < other.day) := by
  simp [components, List.cons_lt_cons_iff]

theorem dayNumber_lt_iff {date other : Date} :
    date.dayNumber < other.dayNumber ↔ date.components < other.components := by
  constructor
  · intro before
    by_contra later
    rcases lt_or_eq_of_le (not_lt.mp later) with after | same
    · have crossed := dayNumber_lt_of_components (components_lt_iff.mp after)
      omega
    · rw [components_injective same] at before
      omega
  · intro before
    exact dayNumber_lt_of_components (components_lt_iff.mp before)

theorem dayNumber_injective : Function.Injective dayNumber := by
  intro date other same
  have back := ofDayNumber?_dayNumber other
  rw [← same, ofDayNumber?_dayNumber] at back
  exact Option.some.inj back

end Date

namespace Time

/-- Hour, minute, second and nanosecond. -/
def components (time : Time) : List Int := [time.hour, time.minute, time.second, time.nanosecond]

theorem components_lt_iff {time other : Time} :
    time.components < other.components ↔ time.secondOfDay < other.secondOfDay ∨
      time.secondOfDay = other.secondOfDay ∧ time.nanosecond < other.nanosecond := by
  obtain ⟨hours, minutes, seconds, -⟩ := time.valid
  obtain ⟨hours', minutes', seconds', -⟩ := other.valid
  simp only [components, List.cons_lt_cons_iff, List.not_lt_nil, and_false, or_false,
    Nat.cast_lt, Nat.cast_inj]
  unfold secondOfDay
  omega

end Time

namespace DateTime

/-- Whole seconds since the first of March of year zero. -/
def secondNumber (moment : DateTime) : Int :=
  moment.date.dayNumber * 86400 + moment.time.secondOfDay

/-- From the year down to the nanosecond. -/
def components (moment : DateTime) : List Int := moment.date.components ++ moment.time.components

theorem eq_of_secondNumber {moment other : DateTime}
    (seconds : moment.secondNumber = other.secondNumber)
    (nanosecond : moment.time.nanosecond = other.time.nanosecond) : moment = other := by
  have inDay := moment.time.secondOfDay_lt
  have inDay' := other.time.secondOfDay_lt
  unfold secondNumber at seconds
  have day : moment.date.dayNumber = other.date.dayNumber := by omega
  have second : moment.time.secondOfDay = other.time.secondOfDay := by omega
  have date : moment.date = other.date := Date.dayNumber_injective day
  have time : moment.time = other.time := by
    rw [← Time.ofSecondOfDay_secondOfDay moment.time, second, nanosecond,
      Time.ofSecondOfDay_secondOfDay]
  exact congr (congrArg DateTime.mk date) time

/-- Moments are ordered by the time at which they come: by whole seconds first, so that a leap
second comes before the second behind it. -/
instance : PartialOrder DateTime where
  le moment other := moment.secondNumber < other.secondNumber ∨
    moment.secondNumber = other.secondNumber ∧ moment.time.nanosecond ≤ other.time.nanosecond
  lt moment other := moment.secondNumber < other.secondNumber ∨
    moment.secondNumber = other.secondNumber ∧ moment.time.nanosecond < other.time.nanosecond
  le_refl moment := .inr ⟨rfl, Nat.le_refl _⟩
  le_trans first second third := by omega
  lt_iff_le_not_ge moment other := by omega
  le_antisymm moment other := by
    intro notAfter notBefore
    exact eq_of_secondNumber (by omega) (by omega)

theorem lt_iff {moment other : DateTime} : moment < other ↔
    moment.secondNumber < other.secondNumber ∨ moment.secondNumber = other.secondNumber ∧
      moment.time.nanosecond < other.time.nanosecond :=
  Iff.rfl

theorem le_iff_not_lt {moment other : DateTime} : moment ≤ other ↔ ¬ other < moment := by
  change _ ∨ _ ↔ ¬ (_ ∨ _)
  omega

theorem lt_iff_components {moment other : DateTime} :
    moment < other ↔ moment.components < other.components := by
  have inDay := moment.time.secondOfDay_lt
  have inDay' := other.time.secondOfDay_lt
  have lengths : moment.date.components.length = other.date.components.length := rfl
  have days : moment.date.components = other.date.components ↔
      moment.date.dayNumber = other.date.dayNumber :=
    Date.components_injective.eq_iff.trans Date.dayNumber_injective.eq_iff.symm
  rw [components, components, append_lt_append_iff lengths, ← Date.dayNumber_lt_iff, days,
    Time.components_lt_iff, lt_iff]
  unfold secondNumber
  omega

end DateTime
end FluentSql
