import FluentSql.Proofs.Compound.Words
import FluentSql.Proofs.Placeholder.Dates

/-! Date conditions are plain texts, as long as their columns and operators are: what the dialects
put around them opens and closes its parentheses and has none of the words of a compound query. -/
namespace FluentSql

open Compound

namespace Dialect

variable {column : String}

theorem plain_currentDate (dialect : Dialect) : Plain dialect.currentDate := by
  cases dialect <;> exact leads (by decide)

theorem plain_dateOf (dialect : Dialect) (nested : Nested column) :
    Plain (dialect.dateOf column) := by
  cases dialect <;> exact nested.wrap 0 (by decide) (by decide)

theorem plain_timeOf (dialect : Dialect) (nested : Nested column) :
    Plain (dialect.timeOf column) := by
  cases dialect <;> exact nested.wrap 0 (by decide) (by decide)

theorem plain_strftimeInteger {token : String}
    (opening : leads? .start ("CAST(strftime('" ++ token ++ "', ").toList (.inside 1) = true)
    (nested : Nested column) : Plain (strftimeInteger token column) :=
  nested.wrap 1 opening (by decide)

theorem plain_strftimeField (field : DateField) (nested : Nested column) :
    Plain (strftimeField field column) := by
  cases field with
  | quarter =>
    have month : Plain (strftimeInteger "%m" column) := plain_strftimeInteger (by decide) nested
    exact month.nested.wrap 1 (by decide) (by decide)
  | _ => exact plain_strftimeInteger (by decide) nested

theorem plain_extract (dialect : Dialect) (field : DateField) (nested : Nested column) :
    Plain (dialect.extract field column) := by
  cases dialect with
  | mySql =>
    cases field with
    | weekday => exact nested.wrap 1 (by decide) (by decide)
    | _ => exact nested.wrap 0 (by decide) (by decide)
  | postgres => cases field <;> exact nested.wrap 1 (by decide) (by decide)
  | sqlite => exact plain_strftimeField field nested

theorem plain_addDays (dialect : Dialect) (nested : Nested column) :
    Plain (dialect.addDays column) := by
  cases dialect <;> exact nested.wrap 0 (by decide) (by decide)

theorem plain_dateDiff (dialect : Dialect) {a b : String} (first : Nested a) (second : Nested b) :
    Plain (dialect.dateDiff a b) := by
  cases dialect with
  | mySql | postgres =>
    exact ((first.wrap 0 (by decide) (by decide)).append (second 0)).append (leads (by decide))
  | sqlite =>
    exact ((first.wrap 1 (by decide) (by decide)).append (second 1)).append (leads (by decide))

theorem plain_dateTrunc (dialect : Dialect) (part : DatePart) (nested : Nested column)
    (moment : DateTime) : Plain (dialect.dateTrunc part column moment).1.sql := by
  cases dialect <;> exact nested.wrap 0 (by decide) (by decide)

theorem plain_formatDate (dialect : Dialect) (nested : Nested column) (pattern : String) :
    Plain (dialect.formatDate column pattern).sql := by
  cases dialect <;> exact nested.wrap 0 (by decide) (by decide)

theorem plain_convertTimezone {dialect : Dialect} {zone : String} {fragment : Fragment}
    (nested : Nested column) (converted : dialect.convertTimezone column zone = .ok fragment) :
    Plain fragment.sql := by
  cases dialect with
  | mySql | postgres =>
    cases converted
    exact nested.wrap 0 (by decide) (by decide)
  | sqlite => cases converted

theorem plain_ageYears (dialect : Dialect) (nested : Nested column) :
    Plain (dialect.ageYears column) := by
  cases dialect with
  | mySql => exact nested.wrap 0 (by decide) (by decide)
  | postgres | sqlite => exact nested.wrap 2 (by decide) (by decide)

theorem plain_businessDay (dialect : Dialect) (nested : Nested column) :
    Plain (dialect.businessDay column) := by
  cases dialect <;> exact nested.wrap 0 (by decide) (by decide)

theorem plain_minuteOfDay (dialect : Dialect) (nested : Nested column) :
    Plain (dialect.minuteOfDay column) := by
  cases dialect with
  | mySql | postgres =>
    exact ((nested.wrap 1 (by decide) (by decide)).append (nested 1)).append (leads (by decide))
  | sqlite =>
    have hour : Plain (strftimeInteger "%H" column) := plain_strftimeInteger (by decide) nested
    have minute : Plain (strftimeInteger "%M" column) := plain_strftimeInteger (by decide) nested
    exact ((hour.nested.wrap 0 (by decide) (by decide)).append (minute.nested 0)).append
      (leads (by decide))

theorem plain_overlaps (dialect : Dialect) {start₁ end₁ start₂ end₂ : String}
    (from₁ : Nested start₁) (to₁ : Nested end₁) (from₂ : Nested start₂) (to₂ : Nested end₂) :
    Plain (dialect.overlaps start₁ end₁ start₂ end₂) := by
  cases dialect with
  | postgres =>
    exact ((((from₁.wrap 0 (by decide) (by decide)).append (to₁ 0)).append
      (leads (by decide))).append (from₂ 0)).append (leads (by decide)) |>.append (to₂ 0)
      |>.append (leads (by decide))
  | mySql | sqlite =>
    exact ((((from₁.wrap 0 (by decide) (by decide)).append (to₂ 0)).append
      (leads (by decide))).append (to₁ 0)).append (leads (by decide)) |>.append (from₂ 0)
      |>.append (leads (by decide))

end Dialect

namespace DateCondition

variable {expr op : String}

theorem plain_compared (plain : Plain expr) (operator : Plain op) : Plain (compared expr op) :=
  (plain.append (by decide) operator).trailed (leads (by decide))

theorem plain_between (plain : Plain expr) : Plain (expr ++ " BETWEEN ? AND ?") :=
  plain.trailed (leads (by decide))

/-- Whatever a dialect says for a condition is a plain text. -/
theorem plain_render (dialect : Dialect) (condition : DateCondition)
    (plain : ∀ text ∈ condition.texts, Plain text) {fragment : Fragment}
    (rendered : condition.render dialect = .ok fragment) : Plain fragment.sql := by
  have today := dialect.plain_currentDate
  cases condition with
  | date column op value =>
    obtain ⟨field, operator⟩ : Plain column ∧ Plain op := by simpa [texts] using plain
    cases rendered
    exact plain_compared (dialect.plain_dateOf field.nested) operator
  | betweenDates column first last =>
    have field : Plain column := by simpa [texts] using plain
    cases rendered
    exact plain_between (dialect.plain_dateOf field.nested)
  | dateTime column op value =>
    obtain ⟨field, operator⟩ : Plain column ∧ Plain op := by simpa [texts] using plain
    cases rendered
    exact plain_compared field operator
  | betweenDateTimes column first last =>
    have field : Plain column := by simpa [texts] using plain
    cases rendered
    exact plain_between field
  | component part column op value =>
    obtain ⟨field, operator⟩ : Plain column ∧ Plain op := by simpa [texts] using plain
    cases rendered
    exact plain_compared (dialect.plain_extract part field.nested) operator
  | time column op value =>
    obtain ⟨field, operator⟩ : Plain column ∧ Plain op := by simpa [texts] using plain
    cases rendered
    exact plain_compared (dialect.plain_timeOf field.nested) operator
  | currentDate column op =>
    obtain ⟨field, operator⟩ : Plain column ∧ Plain op := by simpa [texts] using plain
    cases rendered
    exact ((dialect.plain_dateOf field.nested).append (by decide) operator).append (by decide) today
  | lastDays column days =>
    have field : Plain column := by simpa [texts] using plain
    cases rendered
    exact (dialect.plain_dateOf field.nested).append (by decide)
      (dialect.plain_addDays today.nested)
  | nextDays column days =>
    have field : Plain column := by simpa [texts] using plain
    have date := (dialect.plain_dateOf field.nested).nested
    have moved := (dialect.plain_addDays today.nested).nested
    cases rendered
    exact (((((date.wrap 0 (by decide) (by decide)).append (moved 0)).append
      (leads (by decide))).append (date 0)).append (leads (by decide))).append (today.nested 0)
      |>.append (leads (by decide))
  | weekend column =>
    have field : Plain column := by simpa [texts] using plain
    cases rendered
    exact (dialect.plain_extract .weekday field.nested).trailed (leads (by decide))
  | dateRange column first last inclusive =>
    have field : Plain column := by simpa [texts] using plain
    have date := dialect.plain_dateOf field.nested
    cases inclusive with
    | true =>
      cases rendered
      exact plain_between date
    | false =>
      cases rendered
      exact ((date.nested.wrap 0 (by decide) (by decide)).append (date.nested 0)).append
        (leads (by decide))
  | betweenColumns column first last =>
    obtain ⟨field, low, high⟩ : Plain column ∧ Plain first ∧ Plain last := by
      simpa [texts] using plain
    cases rendered
    exact ((dialect.plain_dateOf field.nested).append (by decide)
      (dialect.plain_dateOf low.nested)).append (by decide) (dialect.plain_dateOf high.nested)
  | age column op years =>
    obtain ⟨field, operator⟩ : Plain column ∧ Plain op := by simpa [texts] using plain
    cases rendered
    exact plain_compared (dialect.plain_ageYears field.nested) operator
  | dateDiff a b op days =>
    obtain ⟨first, second, operator⟩ : Plain a ∧ Plain b ∧ Plain op := by
      simpa [texts] using plain
    cases rendered
    exact plain_compared (dialect.plain_dateDiff first.nested second.nested) operator
  | timeOverlap start₁ end₁ start₂ end₂ =>
    obtain ⟨from₁, to₁, from₂, to₂⟩ :
        Plain start₁ ∧ Plain end₁ ∧ Plain start₂ ∧ Plain end₂ := by simpa [texts] using plain
    cases rendered
    exact dialect.plain_overlaps from₁.nested to₁.nested from₂.nested to₂.nested
  | truncated part column op value =>
    obtain ⟨field, operator⟩ : Plain column ∧ Plain op := by simpa [texts] using plain
    cases rendered
    exact plain_compared (dialect.plain_dateTrunc part field.nested value) operator
  | timeWindow column first last =>
    have field : Plain column := by simpa [texts] using plain
    cases rendered
    exact plain_between (dialect.plain_minuteOfDay field.nested)
  | businessDays column =>
    have field : Plain column := by simpa [texts] using plain
    cases rendered
    exact dialect.plain_businessDay field.nested
  | formatted column pattern op value =>
    obtain ⟨field, operator⟩ : Plain column ∧ Plain op := by simpa [texts] using plain
    cases rendered
    exact plain_compared (dialect.plain_formatDate field.nested pattern) operator
  | timeZone column op value zone =>
    obtain ⟨field, operator⟩ : Plain column ∧ Plain op := by simpa [texts] using plain
    cases converted : dialect.convertTimezone column zone with
    | error error => simp [render, converted, Except.map] at rendered
    | ok inner =>
      simp only [render, converted, Except.map, Except.ok.injEq] at rendered
      subst fragment
      exact plain_compared (Dialect.plain_convertTimezone field.nested converted) operator

end DateCondition
end FluentSql
