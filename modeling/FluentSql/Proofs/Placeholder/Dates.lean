import FluentSql.Proofs.Placeholder.Filling
import FluentSql.Query.Dates

/-! Date conditions with their arguments written in. In every dialect an expression has the
placeholders of its own arguments, as long as the columns and operators have none. -/
namespace FluentSql

open Placeholder

namespace Dialect

variable {column : String}

theorem inert_currentDate (dialect : Dialect) : Inert dialect.currentDate := by
  cases dialect <;> decide

theorem inert_dateOf (dialect : Dialect) (inert : Inert column) :
    Inert (dialect.dateOf column) := by
  cases dialect <;> exact inert.wrap (by decide) (by decide)

theorem inert_timeOf (dialect : Dialect) (inert : Inert column) :
    Inert (dialect.timeOf column) := by
  cases dialect <;> exact inert.wrap (by decide) (by decide)

theorem inert_strftimeInteger {token : String}
    (opening : Inert ("CAST(strftime('" ++ token ++ "', "))
    (inert : Inert column) : Inert (strftimeInteger token column) :=
  inert.wrap opening (by decide)

theorem inert_strftimeField (field : DateField) (inert : Inert column) :
    Inert (strftimeField field column) := by
  cases field with
  | quarter => exact (inert_strftimeInteger (by decide) inert).wrap (by decide) (by decide)
  | _ => exact inert_strftimeInteger (by decide) inert

theorem inert_keyword (field : DateField) (opening closing : String) (before : Inert opening)
    (after : Inert closing) : Inert (opening ++ field.keyword ++ closing) := by
  have word : Inert field.keyword := by cases field <;> decide
  exact word.wrap before after

theorem inert_extract (dialect : Dialect) (field : DateField) (inert : Inert column) :
    Inert (dialect.extract field column) := by
  cases dialect with
  | mySql => cases field <;> exact inert.wrap (by decide) (by decide)
  | postgres => exact inert.wrap (inert_keyword field _ _ (by decide) (by decide)) (by decide)
  | sqlite => exact inert_strftimeField field inert

theorem paired_addDays (dialect : Dialect) (inert : Inert column) (days : Value) :
    Paired (dialect.addDays column) [days] := by
  cases dialect <;> exact inert.wrap_marked_after (by decide) (by decide) (by decide) days

theorem inert_dateDiff (dialect : Dialect) {a b : String} (first : Inert a) (second : Inert b) :
    Inert (dialect.dateDiff a b) := by
  cases dialect <;>
    exact ((first.wrap (by decide) (by decide)).append second).append (by decide)

/-- Truncation has one placeholder, for the name of the precision. -/
theorem paired_dateTrunc (dialect : Dialect) (part : DatePart) (inert : Inert column)
    (moment : DateTime) :
    Paired (dialect.dateTrunc part column moment).1.sql
      (dialect.dateTrunc part column moment).1.args := by
  cases dialect with
  | mySql => exact inert.wrap_marked_after (by decide) (by decide) (by decide) _
  | postgres | sqlite => exact inert.wrap_marked_before (by decide) (by decide) (by decide) _

theorem paired_formatDate (dialect : Dialect) (inert : Inert column) (pattern : String) :
    Paired (dialect.formatDate column pattern).sql (dialect.formatDate column pattern).args := by
  cases dialect with
  | mySql | postgres => exact inert.wrap_marked_after (by decide) (by decide) (by decide) _
  | sqlite => exact inert.wrap_marked_before (by decide) (by decide) (by decide) _

theorem paired_convertTimezone {dialect : Dialect} {zone : String} {fragment : Fragment}
    (inert : Inert column) (converted : dialect.convertTimezone column zone = .ok fragment) :
    Paired fragment.sql fragment.args := by
  cases dialect with
  | mySql | postgres =>
    cases converted
    exact inert.wrap_marked_after (by decide) (by decide) (by decide) _
  | sqlite => cases converted

theorem inert_ageYears (dialect : Dialect) (inert : Inert column) :
    Inert (dialect.ageYears column) := by
  cases dialect <;> exact inert.wrap (by decide) (by decide)

theorem inert_businessDay (dialect : Dialect) (inert : Inert column) :
    Inert (dialect.businessDay column) := by
  cases dialect <;> exact inert.wrap (by decide) (by decide)

theorem inert_minuteOfDay (dialect : Dialect) (inert : Inert column) :
    Inert (dialect.minuteOfDay column) := by
  cases dialect with
  | mySql | postgres =>
    exact ((inert.wrap (by decide) (by decide)).append inert).append (by decide)
  | sqlite =>
    have field {token : String} (opening : Inert ("CAST(strftime('" ++ token ++ "', ")) :=
      inert_strftimeInteger opening inert
    exact (((field (by decide)).wrap (by decide) (by decide)).append (field (by decide))).append
      (by decide)

theorem inert_overlaps (dialect : Dialect) {start₁ end₁ start₂ end₂ : String} (from₁ : Inert start₁)
    (to₁ : Inert end₁) (from₂ : Inert start₂) (to₂ : Inert end₂) :
    Inert (dialect.overlaps start₁ end₁ start₂ end₂) := by
  cases dialect with
  | postgres =>
    exact (((((from₁.wrap (by decide) (by decide)).append to₁).append (by decide)).append
      from₂).append (by decide)).append to₂ |>.append (by decide)
  | mySql | sqlite =>
    exact (((((from₁.wrap (by decide) (by decide)).append to₂).append (by decide)).append
      to₁).append (by decide)).append from₂ |>.append (by decide)

end Dialect

namespace DateCondition

/-- The columns and operators of a condition. All else that a caller gives is bound to
placeholders. -/
def texts : DateCondition → List String
  | .date column op _ | .dateTime column op _ | .component _ column op _ | .time column op _
  | .currentDate column op | .age column op _ | .truncated _ column op _
  | .formatted column _ op _ | .timeZone column op _ _ => [column, op]
  | .betweenDates column _ _ | .betweenDateTimes column _ _ | .lastDays column _
  | .nextDays column _ | .weekend column | .dateRange column _ _ _ | .timeWindow column _ _
  | .businessDays column => [column]
  | .betweenColumns column first last => [column, first, last]
  | .dateDiff a b op _ => [a, b, op]
  | .timeOverlap start₁ end₁ start₂ end₂ => [start₁, end₁, start₂, end₂]

def comparedWith (expr op operand : String) : String := expr ++ " " ++ op ++ " " ++ operand

def between (expr first last : String) : String := expr ++ " BETWEEN " ++ first ++ " AND " ++ last

/-- The condition with every argument in the place that it is meant for. -/
def inlined (write : Value → String) (dialect : Dialect) : DateCondition → Except Error String
  | .date column op value => .ok (comparedWith (dialect.dateOf column) op (write (.date value)))
  | .betweenDates column first last =>
    .ok (between (dialect.dateOf column) (write (.date first)) (write (.date last)))
  | .dateTime column op value => .ok (comparedWith column op (write (.dateTime value)))
  | .betweenDateTimes column first last =>
    .ok (between column (write (.dateTime first)) (write (.dateTime last)))
  | .component field column op value =>
    .ok (comparedWith (dialect.extract field column) op (write (.int value)))
  | .time column op value => .ok (comparedWith (dialect.timeOf column) op (write (.time value)))
  | .currentDate column op => .ok (comparedWith (dialect.dateOf column) op dialect.currentDate)
  | .lastDays column days =>
    .ok (comparedWith (dialect.dateOf column) ">="
      (filled write (dialect.addDays dialect.currentDate) [.int (-days)]))
  | .nextDays column days =>
    let date := dialect.dateOf column
    .ok ("(" ++ date ++ " <= " ++
      filled write (dialect.addDays dialect.currentDate) [.int days] ++ " AND " ++ date ++ " >= " ++
      dialect.currentDate ++ ")")
  | .weekend column => .ok (dialect.extract .weekday column ++ " IN (0, 6)")
  | .dateRange column first last inclusive =>
    let date := dialect.dateOf column
    if inclusive then .ok (between date (write (.date first)) (write (.date last)))
    else .ok ("(" ++ date ++ " > " ++ write (.date first) ++ " AND " ++ date ++ " < " ++
      write (.date last) ++ ")")
  | .betweenColumns column first last =>
    .ok (between (dialect.dateOf column) (dialect.dateOf first) (dialect.dateOf last))
  | .age column op years => .ok (comparedWith (dialect.ageYears column) op (write (.int years)))
  | .dateDiff a b op days => .ok (comparedWith (dialect.dateDiff a b) op (write (.int days)))
  | .timeOverlap start₁ end₁ start₂ end₂ => .ok (dialect.overlaps start₁ end₁ start₂ end₂)
  | .truncated part column op value =>
    let (fragment, operand) := dialect.dateTrunc part column value
    .ok (comparedWith (filled write fragment.sql fragment.args) op (write operand))
  | .timeWindow column first last =>
    .ok (between (dialect.minuteOfDay column) (write (minutes first)) (write (minutes last)))
  | .businessDays column => .ok (dialect.businessDay column)
  | .formatted column pattern op value =>
    let fragment := dialect.formatDate column pattern
    .ok (comparedWith (filled write fragment.sql fragment.args) op (write (.text value)))
  | .timeZone column op value zone =>
    (dialect.convertTimezone column zone).map fun fragment =>
      comparedWith (filled write fragment.sql fragment.args) op (write (.dateTime value))

variable {write : Value → String} {expr op result : String} {held : List Value}

theorem fills_compared (fills : Fills write expr held result) (inert : Inert op) (value : Value) :
    Fills write (compared expr op) (held ++ [value]) (comparedWith result op (write value)) := by
  have last : Fills write " ?" [value] (" " ++ write value) :=
    (fills_mark write value).after inert_blank
  have whole := ((fills.before inert_blank).before inert).append last
  simpa only [compared, comparedWith, String.append_assoc] using whole

theorem fills_compared_of_inert (inert : Inert expr) (operator : Inert op) (value : Value) :
    Fills write (compared expr op) [value] (comparedWith expr op (write value)) :=
  fills_compared (inert.fills write) operator value

theorem fills_between (inert : Inert expr) (first last : Value) :
    Fills write (expr ++ " BETWEEN ? AND ?") [first, last]
      (between expr (write first) (write last)) := by
  have opening : Inert " BETWEEN " := by decide
  have middle : Inert " AND " := by decide
  have marked : " BETWEEN ? AND ?" = " BETWEEN " ++ "?" ++ " AND " ++ "?" := by decide
  have range := (fills_marked write opening first middle).append (fills_mark write last)
  rw [marked]
  simpa only [between, String.append_assoc, List.singleton_append] using range.after inert

/-- A range without its ends names the expression for each of them. -/
theorem fills_outside_ends (inert : Inert expr) (first last : Value) :
    Fills write ("(" ++ expr ++ " > ? AND " ++ expr ++ " < ?)") [first, last]
      ("(" ++ expr ++ " > " ++ write first ++ " AND " ++ expr ++ " < " ++ write last ++ ")") := by
  have lower : " > ? AND " = " > " ++ "?" ++ " AND " := by decide
  have upper : " < ?)" = " < " ++ "?" ++ ")" := by decide
  have above : Fills write (" > " ++ "?" ++ " AND ") [first] (" > " ++ write first ++ " AND ") :=
    fills_marked write (by decide) first (by decide)
  have below : Fills write (" < " ++ "?" ++ ")") [last] (" < " ++ write last ++ ")") :=
    fills_marked write (by decide) last (by decide)
  rw [lower, upper]
  simpa only [String.append_assoc, List.singleton_append] using
    (above.after (inert_open.append inert)).append (below.after inert)

theorem fills_lastDays (write : Value → String) (dialect : Dialect) (inert : Inert column)
    (days : Int64) :
    Fills write (dialect.dateOf column ++ " >= " ++ dialect.addDays dialect.currentDate)
      [.int (-days)]
      (comparedWith (dialect.dateOf column) ">="
        (filled write (dialect.addDays dialect.currentDate) [.int (-days)])) := by
  have moved := (dialect.paired_addDays dialect.inert_currentDate (.int (-days))).fills write
  have compared : Inert (dialect.dateOf column ++ " >= ") :=
    (dialect.inert_dateOf inert).append (by decide)
  have spaced : " >= " = " " ++ ">=" ++ " " := by decide
  have shown : comparedWith (dialect.dateOf column) ">="
      (filled write (dialect.addDays dialect.currentDate) [.int (-days)]) =
      dialect.dateOf column ++ " >= " ++
        filled write (dialect.addDays dialect.currentDate) [.int (-days)] := by
    simp only [comparedWith, spaced, String.append_assoc]
  rw [shown]
  exact moved.after compared

theorem fills_nextDays (write : Value → String) (dialect : Dialect) (inert : Inert column)
    (days : Int64) :
    Fills write ("(" ++ dialect.dateOf column ++ " <= " ++ dialect.addDays dialect.currentDate ++
        " AND " ++ dialect.dateOf column ++ " >= " ++ dialect.currentDate ++ ")") [.int days]
      ("(" ++ dialect.dateOf column ++ " <= " ++
        filled write (dialect.addDays dialect.currentDate) [.int days] ++ " AND " ++
        dialect.dateOf column ++ " >= " ++ dialect.currentDate ++ ")") := by
  have today := dialect.inert_currentDate
  have date := dialect.inert_dateOf inert
  have opening : Inert ("(" ++ dialect.dateOf column ++ " <= ") :=
    date.wrap (by decide) (by decide)
  have conjunction : Inert " AND " := by decide
  have atLeast : Inert " >= " := by decide
  have moved := (dialect.paired_addDays today (.int days)).fills write
  have above := ((moved.after opening).before conjunction).before date
  exact ((above.before atLeast).before today).before inert_close

/-- Whatever a dialect says for a condition has every argument where it is meant to be. -/
theorem fills_render (write : Value → String) (dialect : Dialect) (condition : DateCondition)
    (inert : ∀ text ∈ condition.texts, Inert text) {fragment : Fragment}
    (rendered : condition.render dialect = .ok fragment) :
    ∃ result, condition.inlined write dialect = .ok result ∧
      Fills write fragment.sql fragment.args result := by
  cases condition with
  | date column op value =>
    obtain ⟨field, operator⟩ : Inert column ∧ Inert op := by simpa [texts] using inert
    cases rendered
    exact ⟨_, rfl, fills_compared_of_inert (dialect.inert_dateOf field) operator _⟩
  | betweenDates column first last =>
    have field : Inert column := by simpa [texts] using inert
    cases rendered
    exact ⟨_, rfl, fills_between (dialect.inert_dateOf field) _ _⟩
  | dateTime column op value =>
    obtain ⟨field, operator⟩ : Inert column ∧ Inert op := by simpa [texts] using inert
    cases rendered
    exact ⟨_, rfl, fills_compared_of_inert field operator _⟩
  | betweenDateTimes column first last =>
    have field : Inert column := by simpa [texts] using inert
    cases rendered
    exact ⟨_, rfl, fills_between field _ _⟩
  | component part column op value =>
    obtain ⟨field, operator⟩ : Inert column ∧ Inert op := by simpa [texts] using inert
    cases rendered
    exact ⟨_, rfl, fills_compared_of_inert (dialect.inert_extract part field) operator _⟩
  | time column op value =>
    obtain ⟨field, operator⟩ : Inert column ∧ Inert op := by simpa [texts] using inert
    cases rendered
    exact ⟨_, rfl, fills_compared_of_inert (dialect.inert_timeOf field) operator _⟩
  | currentDate column op =>
    obtain ⟨field, operator⟩ : Inert column ∧ Inert op := by simpa [texts] using inert
    cases rendered
    refine ⟨_, rfl, Inert.fills ?_ write⟩
    exact ((((dialect.inert_dateOf field).append inert_blank).append operator).append
      inert_blank).append dialect.inert_currentDate
  | lastDays column days =>
    have field : Inert column := by simpa [texts] using inert
    cases rendered
    exact ⟨_, rfl, fills_lastDays write dialect field days⟩
  | nextDays column days =>
    have field : Inert column := by simpa [texts] using inert
    cases rendered
    exact ⟨_, rfl, fills_nextDays write dialect field days⟩
  | weekend column =>
    have field : Inert column := by simpa [texts] using inert
    cases rendered
    exact ⟨_, rfl, Inert.fills ((dialect.inert_extract .weekday field).append (by decide)) write⟩
  | dateRange column first last inclusive =>
    have field : Inert column := by simpa [texts] using inert
    have date := dialect.inert_dateOf field
    cases inclusive with
    | true =>
      cases rendered
      exact ⟨_, rfl, fills_between date _ _⟩
    | false =>
      cases rendered
      exact ⟨_, rfl, fills_outside_ends date _ _⟩
  | betweenColumns column first last =>
    obtain ⟨field, low, high⟩ : Inert column ∧ Inert first ∧ Inert last := by
      simpa [texts] using inert
    cases rendered
    refine ⟨_, rfl, Inert.fills ?_ write⟩
    exact ((((dialect.inert_dateOf field).append (by decide)).append
      (dialect.inert_dateOf low)).append (by decide)).append (dialect.inert_dateOf high)
  | age column op years =>
    obtain ⟨field, operator⟩ : Inert column ∧ Inert op := by simpa [texts] using inert
    cases rendered
    exact ⟨_, rfl, fills_compared_of_inert (dialect.inert_ageYears field) operator _⟩
  | dateDiff a b op days =>
    obtain ⟨first, second, operator⟩ : Inert a ∧ Inert b ∧ Inert op := by
      simpa [texts] using inert
    cases rendered
    exact ⟨_, rfl, fills_compared_of_inert (dialect.inert_dateDiff first second) operator _⟩
  | timeOverlap start₁ end₁ start₂ end₂ =>
    obtain ⟨from₁, to₁, from₂, to₂⟩ :
        Inert start₁ ∧ Inert end₁ ∧ Inert start₂ ∧ Inert end₂ := by simpa [texts] using inert
    cases rendered
    exact ⟨_, rfl, Inert.fills (dialect.inert_overlaps from₁ to₁ from₂ to₂) write⟩
  | truncated part column op value =>
    obtain ⟨field, operator⟩ : Inert column ∧ Inert op := by simpa [texts] using inert
    cases rendered
    have truncated := (dialect.paired_dateTrunc part field value).fills write
    exact ⟨_, rfl, fills_compared truncated operator _⟩
  | timeWindow column first last =>
    have field : Inert column := by simpa [texts] using inert
    cases rendered
    exact ⟨_, rfl, fills_between (dialect.inert_minuteOfDay field) _ _⟩
  | businessDays column =>
    have field : Inert column := by simpa [texts] using inert
    cases rendered
    exact ⟨_, rfl, Inert.fills (dialect.inert_businessDay field) write⟩
  | formatted column pattern op value =>
    obtain ⟨field, operator⟩ : Inert column ∧ Inert op := by simpa [texts] using inert
    cases rendered
    have formatted := (dialect.paired_formatDate field pattern).fills write
    exact ⟨_, rfl, fills_compared formatted operator _⟩
  | timeZone column op value zone =>
    obtain ⟨field, operator⟩ : Inert column ∧ Inert op := by simpa [texts] using inert
    cases converted : dialect.convertTimezone column zone with
    | error error => simp [render, converted, Except.map] at rendered
    | ok inner =>
      have own := (Dialect.paired_convertTimezone field converted).fills write
      simp only [render, converted, Except.map, Except.ok.injEq] at rendered
      subst fragment
      exact ⟨_, by simp [inlined, converted, Except.map], fills_compared own operator _⟩

/-- A condition that a dialect refuses is refused with its arguments written in. -/
theorem inlined_of_refused (write : Value → String) (dialect : Dialect) (condition : DateCondition)
    {error : Error} (refused : condition.render dialect = .error error) :
    condition.inlined write dialect = .error error := by
  cases condition with
  | dateRange column first last inclusive => cases inclusive <;> cases refused
  | timeZone column op value zone =>
    cases converted : dialect.convertTimezone column zone with
    | ok fragment => simp [render, converted, Except.map] at refused
    | error reason => simpa [render, inlined, converted, Except.map] using refused
  | _ => cases refused

end DateCondition
end FluentSql
