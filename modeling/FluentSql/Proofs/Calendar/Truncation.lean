import FluentSql.Calendar.Part
import FluentSql.Proofs.Calendar.Order
import Mathlib.Data.List.Forall2
import Mathlib.Order.Bounds.Basic

/-! Truncation to a part of the calendar. A truncated moment is the latest one, not after the moment
itself, whose components finer than the part are at their minimum; the other laws of truncation
follow from that. -/
namespace FluentSql.DatePart
open Calendar

/-- How many components the part keeps, from the year on. -/
def depth : DatePart → Nat
  | .year => 1
  | .month => 2
  | .day => 3
  | .hour => 4
  | .minute => 5
  | .second => 6

/-- The one of two parts that keeps less. -/
def coarser (part other : DatePart) : DatePart := if part.depth ≤ other.depth then part else other

/-- The component that the part ends with. -/
def component (moment : DateTime) : DatePart → Int
  | .year => moment.date.year
  | .month => moment.date.month
  | .day => moment.date.day
  | .hour => moment.time.hour
  | .minute => moment.time.minute
  | .second => moment.time.second

/-- What the component of a moment is at least. -/
def least : DatePart → Int
  | .year => firstYear
  | .month => 1
  | .day => 1
  | .hour => 0
  | .minute => 0
  | .second => 0

/-- Every component finer than the part is at its minimum, the nanoseconds included. -/
def AtMinimum (part : DatePart) (moment : DateTime) : Prop :=
  (∀ finer : DatePart, part.depth < finer.depth → finer.component moment = finer.least) ∧
    moment.time.nanosecond = 0

/-- The calendar has the kept components, and truncation gives the moment they make up. -/
def Rebuilds (part : DatePart) (moment : DateTime) : Prop :=
  ∃ date time,
    Date.make? moment.date.year (part.kept moment).1 (part.kept moment).2.1 = some date ∧
    Time.make? (part.kept moment).2.2.1 (part.kept moment).2.2.2.1 (part.kept moment).2.2.2.2 0 =
      some time ∧
    part.truncate moment = ⟨date, time⟩

/-- The components of the first moment of the calendar. -/
def minima : List Int := [firstYear, 1, 1, 0, 0, 0, 0]

theorem atMinimum_iff {part : DatePart} {moment : DateTime} :
    part.AtMinimum moment ↔ moment.components.drop part.depth = minima.drop part.depth := by
  have every (holds : DatePart → Prop) : (∀ part, holds part) ↔ holds .year ∧ holds .month ∧
      holds .day ∧ holds .hour ∧ holds .minute ∧ holds .second := by
    constructor
    · intro all
      exact ⟨all _, all _, all _, all _, all _, all _⟩
    · rintro ⟨year, month, day, hour, minute, second⟩ part
      cases part <;> assumption
  unfold AtMinimum
  rw [every]
  cases part <;> simp [depth, component, least, minima, DateTime.components, Date.components,
    Time.components, and_assoc]

theorem AtMinimum.of_coarser {part other : DatePart} {moment : DateTime}
    (atMinimum : part.AtMinimum moment) (coarse : part.depth ≤ other.depth) :
    other.AtMinimum moment := by
  refine ⟨?_, atMinimum.2⟩
  intro finer below
  exact atMinimum.1 finer (coarse.trans_lt below)

section Rebuilding

variable (part : DatePart) (moment : DateTime)

/-- Every month has a first day, and every year a first month. -/
theorem isDay_kept : IsDay moment.date.year (part.kept moment).1 (part.kept moment).2.1 := by
  obtain ⟨year, ⟨first, last⟩, low, high⟩ := moment.date.valid
  have begins (month : Nat) : 1 ≤ daysInMonth moment.date.year month := by
    unfold daysInMonth
    split_ifs <;> omega
  cases part with
  | year => exact ⟨year, ⟨le_refl 1, show 1 ≤ 12 by decide⟩, le_refl 1, begins 1⟩
  | month => exact ⟨year, ⟨first, last⟩, le_refl 1, begins _⟩
  | day | hour | minute | second => exact moment.date.valid

theorem isMoment_kept :
    IsMoment (part.kept moment).2.2.1 (part.kept moment).2.2.2.1 (part.kept moment).2.2.2.2 0 := by
  obtain ⟨hours, minutes, seconds, -⟩ := moment.time.valid
  have none (bound : Nat) : 0 < bound + 1 := Nat.zero_lt_succ bound
  cases part with
  | year | month | day => exact ⟨none _, none _, none _, none _⟩
  | hour => exact ⟨hours, none _, none _, none _⟩
  | minute => exact ⟨hours, minutes, none _, none _⟩
  | second => exact ⟨hours, minutes, seconds, none _⟩

/-- The kept components with everything finer at its minimum. -/
def floor : DateTime :=
  ⟨⟨moment.date.year, _, _, part.isDay_kept moment⟩, ⟨_, _, _, 0, part.isMoment_kept moment⟩⟩

theorem make?_kept_date :
    Date.make? moment.date.year (part.kept moment).1 (part.kept moment).2.1 =
      some (part.floor moment).date :=
  dif_pos (part.isDay_kept moment)

/-- Without nanoseconds there is no leap second that could be refused. -/
theorem make?_kept_time :
    Time.make? (part.kept moment).2.2.1 (part.kept moment).2.2.2.1 (part.kept moment).2.2.2.2 0 =
      some (part.floor moment).time := by
  have regular : Time.Regular (part.kept moment).2.2.2.2 0 := by
    intro leap
    omega
  rw [Time.make?, if_pos regular, Time.moment?, dif_pos (part.isMoment_kept moment)]
  rfl

theorem truncate_eq_floor : part.truncate moment = part.floor moment := by
  unfold truncate
  simp only [make?_kept_date, make?_kept_time]

theorem rebuilds : part.Rebuilds moment :=
  ⟨_, _, part.make?_kept_date moment, part.make?_kept_time moment, part.truncate_eq_floor moment⟩

theorem take_components_truncate :
    (part.truncate moment).components.take part.depth = moment.components.take part.depth := by
  rw [truncate_eq_floor]
  cases part <;> rfl

theorem atMinimum_truncate : part.AtMinimum (part.truncate moment) := by
  rw [atMinimum_iff, truncate_eq_floor]
  cases part <;> rfl

end Rebuilding

section Order

variable {moment other : DateTime}

theorem length_components (moment : DateTime) : moment.components.length = 7 := rfl

/-- The components down to a depth decide first. -/
theorem lt_iff_at_depth (depth : Nat) : moment < other ↔
    moment.components.take depth < other.components.take depth ∨
      moment.components.take depth = other.components.take depth ∧
        moment.components.drop depth < other.components.drop depth := by
  have lengths : (moment.components.take depth).length = (other.components.take depth).length := by
    simp only [List.length_take, length_components]
  rw [← append_lt_append_iff lengths, List.take_append_drop, List.take_append_drop]
  exact DateTime.lt_iff_components

theorem not_lt_of_forall₂ {low high : List Int} (bounds : List.Forall₂ (· ≤ ·) low high) :
    ¬ high < low := by
  induction bounds with
  | nil => exact lt_irrefl _
  | cons head _ ih =>
    rw [List.cons_lt_cons_iff]
    rintro (smaller | ⟨-, rest⟩)
    · exact absurd smaller (not_lt.mpr head)
    · exact ih rest

theorem minima_le_components (moment : DateTime) :
    List.Forall₂ (· ≤ ·) minima moment.components := by
  obtain ⟨⟨year, -⟩, ⟨month, -⟩, day, -⟩ := moment.date.valid
  simp only [minima, DateTime.components, Date.components, Time.components, List.cons_append,
    List.nil_append, List.forall₂_cons, List.Forall₂.nil, and_true]
  omega

theorem truncate_le (part : DatePart) (moment : DateTime) : part.truncate moment ≤ moment := by
  rw [DateTime.le_iff_not_lt, lt_iff_at_depth part.depth, take_components_truncate,
    atMinimum_iff.mp (part.atMinimum_truncate moment)]
  rintro (smaller | ⟨-, smaller⟩)
  · exact lt_irrefl _ smaller
  · exact not_lt_of_forall₂ (List.forall₂_drop part.depth (minima_le_components moment)) smaller

/-- Moments at their minimum below the part are ordered as their components down to the part. -/
theorem AtMinimum.lt_iff {part : DatePart} (own : part.AtMinimum moment)
    (others : part.AtMinimum other) : moment < other ↔
      moment.components.take part.depth < other.components.take part.depth := by
  rw [lt_iff_at_depth part.depth, atMinimum_iff.mp own, atMinimum_iff.mp others]
  constructor
  · rintro (smaller | ⟨-, smaller⟩)
    · exact smaller
    · exact absurd smaller (lt_irrefl _)
  · exact .inl

theorem isGreatest_truncate (part : DatePart) (moment : DateTime) :
    IsGreatest {other | other ≤ moment ∧ part.AtMinimum other} (part.truncate moment) := by
  constructor
  · exact ⟨truncate_le part moment, part.atMinimum_truncate moment⟩
  · rintro other ⟨notAfter, atMinimum⟩
    rw [DateTime.le_iff_not_lt] at notAfter ⊢
    rw [(part.atMinimum_truncate moment).lt_iff atMinimum, take_components_truncate]
    intro smaller
    exact notAfter ((lt_iff_at_depth part.depth).mpr (.inl smaller))

theorem truncate_mono (part : DatePart) : Monotone part.truncate := by
  intro moment other notAfter
  apply (part.isGreatest_truncate other).2
  exact ⟨(truncate_le part moment).trans notAfter, part.atMinimum_truncate moment⟩

theorem AtMinimum.truncate_eq {part : DatePart} (atMinimum : part.AtMinimum moment) :
    part.truncate moment = moment := by
  apply le_antisymm (truncate_le part moment)
  apply (part.isGreatest_truncate moment).2
  exact ⟨le_refl moment, atMinimum⟩

theorem truncate_truncate (part other : DatePart) (moment : DateTime) :
    part.truncate (other.truncate moment) = (part.coarser other).truncate moment := by
  unfold coarser
  split_ifs with coarse
  · apply le_antisymm
    · exact part.truncate_mono (truncate_le other moment)
    · apply (part.isGreatest_truncate (other.truncate moment)).2
      refine ⟨?_, part.atMinimum_truncate moment⟩
      apply (other.isGreatest_truncate moment).2
      exact ⟨truncate_le part moment, (part.atMinimum_truncate moment).of_coarser coarse⟩
  · apply AtMinimum.truncate_eq
    exact (other.atMinimum_truncate moment).of_coarser (le_of_not_ge coarse)

end Order

/-- Truncation never goes past the moment, changes nothing the second time and keeps the order of
moments; after truncation to another part it is truncation to the coarser one; it gives the latest
moment, not after its own, with everything finer at its minimum; and that moment can always be
rebuilt from the kept components. -/
theorem truncates_to_latest (part other : DatePart) (moment : DateTime) :
    part.truncate moment ≤ moment ∧
      part.truncate (part.truncate moment) = part.truncate moment ∧
      Monotone part.truncate ∧
      part.truncate (other.truncate moment) = (part.coarser other).truncate moment ∧
      IsGreatest {other | other ≤ moment ∧ part.AtMinimum other} (part.truncate moment) ∧
      part.Rebuilds moment := by
  have latest := part.isGreatest_truncate moment
  have once : part.truncate (part.truncate moment) = part.truncate moment :=
    latest.1.2.truncate_eq
  exact ⟨latest.1.1, once, part.truncate_mono, part.truncate_truncate other moment, latest,
    part.rebuilds moment⟩

end FluentSql.DatePart
