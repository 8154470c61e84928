import FluentSql.Proofs.Placeholder.Calls

/-! Programs of builder calls bind every argument to the placeholder that it is supplied for. A
program keeps its builder paired, and writing the arguments into its texts before it runs or into
the statement that comes out of it is the same. -/
namespace FluentSql.Query

open Placeholder

/-! The dialect of a builder is that of its connection, which only a transaction replaces. -/

theorem connection_fail (query : Query) (error : Error) :
    (query.fail error).connection = query.connection := by
  rw [fail_eq]

theorem connection_absorb (query other : Query) :
    (query.absorb other).connection = query.connection := by
  rw [absorb_eq]

/-- No other call attaches a builder to another connection, whatever builders it takes in. -/
theorem connection_apply (query : Query) {step : Step}
    (kept : ∀ connection, step ≠ .withTransaction connection) :
    (query.apply step).connection = query.connection := by
  cases step with
  | withTransaction connection => exact absurd rfl (kept connection)
  | selectSub sub label => exact connection_absorb query _
  | whereSubQuery column op sub => exact connection_absorb query _
  | union all sub => exact connection_absorb query _
  | whereIn column values =>
    simp only [Query.apply, Query.whereIn]
    split <;> rfl
  | whereNotIn column values =>
    simp only [Query.apply, Query.whereNotIn]
    split <;> rfl
  | whereDate condition =>
    simp only [Query.apply, Query.whereDate]
    split
    · rfl
    · exact connection_fail query _
  | orderBy column direction =>
    simp only [Query.apply, Query.addOrder]
    split
    · rfl
    · exact connection_fail query _
  | lockModifier modifier =>
    simp only [Query.apply, Query.lockModifier]
    split
    · rfl
    · exact connection_fail query _
  | _ => rfl

theorem dialect_apply (query : Query) (step : Step) :
    (query.apply step).dialect = step.dialectAfter query.dialect := by
  cases step with
  | withTransaction connection => rfl
  | _ => exact congrArg Connection.dialect (connection_apply query (by simp))

mutual

/-- Every call keeps the clauses of a builder paired with their arguments. -/
theorem Paired.apply {query : Query} (paired : query.Paired) (step : Step)
    (supplied : step.Supplied) : (query.apply step).Paired := by
  match step with
  | .tableAlias name =>
    have named : ∀ label ∈ some name, Inert label := by simpa [Step.Supplied] using supplied
    exact { paired with named }
  | .remember ttl => exact { paired with }
  | .select columns => exact paired.select columns supplied
  | .selectRaw expr args => exact paired.selectRaw supplied
  | .selectSub sub label =>
    exact paired.selectSub (paired_ofSubQuery query.dialect sub supplied.1) supplied.2
  | .window function partition order label =>
    obtain ⟨call, parts, sorting, name⟩ := supplied
    exact paired.selectRaw (inert_window call parts sorting name)
  | .andWhere clause args => exact paired.andWhere supplied
  | .orWhere clause args => exact paired.orWhere supplied
  | .whereId id => exact paired.andWhere ⟨by decide, rfl⟩
  | .whereGroup connector steps =>
    have members := Conditions.Paired.applyAll Conditions.paired_empty steps supplied
    exact { paired with conditions := paired.conditions.attach connector members }
  | .whereIn column values => exact paired.whereIn supplied values
  | .whereNotIn column values => exact paired.whereNotIn supplied values
  | .whereNull column => exact paired.andWhere (Inert.append supplied (by decide))
  | .whereNotNull column => exact paired.andWhere (Inert.append supplied (by decide))
  | .whereBetween column first last =>
    exact paired.andWhere (fills_whereBetween (fun _ => "") supplied first last).paired
  | .whereNotBetween column first last =>
    exact paired.andWhere (fills_whereNotBetween (fun _ => "") supplied first last).paired
  | .whereSubQuery column op sub =>
    obtain ⟨field, operator, inner⟩ := supplied
    exact paired.whereSubQuery (paired_ofSubQuery query.dialect sub inner) field operator
  | .whereDate condition => exact paired.whereDate condition supplied
  | .join kind table condition? => exact paired.addJoin kind supplied.1 condition? supplied.2
  | .groupBy columns => exact { paired with groupBy := supplied }
  | .having condition => exact paired.setHaving supplied
  | .havingRaw sql args => exact paired.havingRaw supplied
  | .orderBy column direction => exact paired.addOrder supplied direction
  | .limit limit => exact { paired with }
  | .offset offset => exact { paired with }
  | .lock lock =>
    have locked : ∀ text ∈ some lock, Inert text := by simpa [Step.Supplied] using supplied
    exact { paired with lock := locked }
  | .lockModifier modifier => exact paired.lockModifier supplied
  | .subQuery label => exact paired.subQuery supplied
  | .union all sub => exact paired.addOperand all (paired_ofSubQuery query.dialect sub supplied)
  | .withTransaction connection => exact { paired with }

theorem paired_ofSubQuery (outer : Dialect) (sub : SubQuery) (supplied : sub.Supplied) :
    (ofSubQuery outer sub).Paired := by
  match sub with
  | .mk dialect? table steps => exact (paired_new _ supplied.1).applyAll steps supplied.2

theorem Paired.applyAll {query : Query} (paired : query.Paired) (steps : List Step)
    (supplied : AllSupplied steps) : (query.applyAll steps).Paired := by
  match steps with
  | [] => exact paired
  | step :: rest => exact (paired.apply step supplied.1).applyAll rest supplied.2

end

theorem inlined_whereDate (write : Value → String) (query : Query) (condition : DateCondition)
    (inert : ∀ text ∈ condition.texts, Inert text) :
    (query.whereDate condition).inlined write =
      (query.inlined write).apply ((Step.whereDate condition).inlined write query.dialect) := by
  cases rendered : condition.render query.dialect with
  | ok fragment =>
    obtain ⟨text, meant, fills⟩ :=
      DateCondition.fills_render write query.dialect condition inert rendered
    simp only [Query.whereDate, rendered, Step.inlined, meant]
    exact inlined_andWhere query fills
  | error error =>
    have refused := DateCondition.inlined_of_refused write query.dialect condition rendered
    simp only [Step.inlined, refused, Query.whereDate, Query.apply, dialect_inlined, rendered]
    exact inlined_fail write query error

theorem inlined_whereGroup (write : Value → String) (query : Query) (connector : Connector)
    (steps : List Conditions.Step) (supplied : Conditions.AllSupplied steps) :
    (query.whereGroup connector (Conditions.ofSteps steps)).inlined write =
      (query.inlined write).whereGroup connector
        (Conditions.ofSteps (Conditions.inlinedSteps write steps)) := by
  have members := Conditions.inlined_applyAll write [] steps supplied
  simp only [Query.whereGroup, inlined, Conditions.inlined_attach, Conditions.ofSteps,
    Conditions.empty, members]
  rfl

mutual

/-- A call does the same to a builder that has its arguments written in. -/
theorem inlined_apply {write : Value → String} (visible : ∀ value, write value ≠ "")
    {query : Query} (paired : query.Paired) (step : Step) (supplied : step.Supplied) :
    (query.apply step).inlined write =
      (query.inlined write).apply (step.inlined write query.dialect) := by
  match step with
  | .tableAlias _ | .remember _ | .join _ _ _ | .groupBy _ | .limit _ | .offset _ | .lock _
  | .withTransaction _ => rfl
  | .select columns => exact inlined_select query columns supplied
  | .selectRaw expr args => exact inlined_selectRaw paired (supplied.fills write)
  | .selectSub sub label =>
    have inner := paired_ofSubQuery query.dialect sub supplied.1
    have nested := inlined_selectSub paired inner visible supplied.2
    rw [inlined_ofSubQuery visible query.dialect sub supplied.1] at nested
    exact nested
  | .window function partition order label =>
    obtain ⟨call, parts, sorting, name⟩ := supplied
    exact inlined_selectRaw paired ((inert_window call parts sorting name).fills write)
  | .andWhere clause args => exact inlined_andWhere query (supplied.fills write)
  | .orWhere clause args => exact inlined_orWhere query (supplied.fills write)
  | .whereId id =>
    have field : Inert "id = " := by decide
    exact inlined_andWhere query ((fills_mark write id).after field)
  | .whereGroup connector steps => exact inlined_whereGroup write query connector steps supplied
  | .whereIn column values => exact inlined_whereIn write query supplied values
  | .whereNotIn column values => exact inlined_whereNotIn write query supplied values
  | .whereNull column =>
    exact inlined_andWhere query (Inert.fills (Inert.append supplied (by decide)) write)
  | .whereNotNull column =>
    exact inlined_andWhere query (Inert.fills (Inert.append supplied (by decide)) write)
  | .whereBetween column first last =>
    exact inlined_andWhere query (fills_whereBetween write supplied first last)
  | .whereNotBetween column first last =>
    exact inlined_andWhere query (fills_whereNotBetween write supplied first last)
  | .whereSubQuery column op sub =>
    obtain ⟨field, operator, own⟩ := supplied
    have inner := paired_ofSubQuery query.dialect sub own
    have nested := inlined_whereSubQuery query inner visible field operator
    rw [inlined_ofSubQuery visible query.dialect sub own] at nested
    exact nested
  | .whereDate condition => exact inlined_whereDate write query condition supplied
  | .having condition => exact inlined_setHaving query supplied
  | .havingRaw sql args => exact inlined_havingRaw paired (supplied.fills write)
  | .orderBy column direction => exact inlined_addOrder write query column direction
  | .lockModifier modifier => exact inlined_lockModifier write query modifier
  | .subQuery label => exact inlined_subQuery paired visible supplied
  | .union all sub =>
    have inner := paired_ofSubQuery query.dialect sub supplied
    have nested := inlined_addOperand query all inner visible
    rw [inlined_ofSubQuery visible query.dialect sub supplied] at nested
    exact nested

theorem inlined_ofSubQuery {write : Value → String} (visible : ∀ value, write value ≠ "")
    (outer : Dialect) (sub : SubQuery) (supplied : sub.Supplied) :
    (ofSubQuery outer sub).inlined write = ofSubQuery outer (sub.inlined write outer) := by
  match sub with
  | .mk dialect? table steps =>
    have start := paired_new ⟨.pool, dialect?.getD outer⟩ supplied.1
    exact inlined_applyAll visible start steps supplied.2

theorem inlined_applyAll {write : Value → String} (visible : ∀ value, write value ≠ "")
    {query : Query} (paired : query.Paired) (steps : List Step) (supplied : AllSupplied steps) :
    (query.applyAll steps).inlined write =
      (query.inlined write).applyAll (inlinedSteps write query.dialect steps) := by
  match steps with
  | [] => rfl
  | step :: rest =>
    have next := inlined_applyAll visible (paired.apply step supplied.1) rest supplied.2
    rw [inlined_apply visible paired step supplied.1, dialect_apply] at next
    exact next

end

section Statements

variable {write : Value → String} {query : Query} {statement : Statement}

/-- A statement behind two checks, which say nothing about its arguments. -/
theorem bound_of_checked {first second : Except Error Unit} {built meant : Statement}
    (fills : Fills write built.sql built.args meant.sql) (none : meant.args = [])
    (rendered : (do first; second; pure built) = Except.ok statement) :
    ∃ text, (do first; second; pure meant) = Except.ok (Statement.mk text []) ∧
      Bound write statement text := by
  cases first with
  | error error => cases rendered
  | ok _ =>
    cases second with
    | error error => cases rendered
    | ok _ =>
      cases rendered
      refine ⟨meant.sql, ?_, bound_of_fills fills⟩
      rw [← none]
      rfl

theorem Paired.bound_toSql (paired : query.Paired) (visible : ∀ value, write value ≠ "")
    (rendered : query.toSql = .ok statement) :
    ∃ meant, (query.inlined write).toSql = .ok ⟨meant, []⟩ ∧ Bound write statement meant := by
  have same : (query.inlined write).toSql =
      (do query.check; query.requireSelection; pure (query.inlined write).render) := by
    rw [← requireSelection_inlined write query]
    rfl
  have none := args_render_inlined write query
  rw [same]
  exact bound_of_checked (paired.fills_render visible) none rendered

theorem Paired.bound_countStatement (paired : query.Paired) (visible : ∀ value, write value ≠ "")
    (rendered : query.countStatement = .ok statement) :
    ∃ meant, (query.inlined write).countStatement = .ok ⟨meant, []⟩ ∧
      Bound write statement meant := by
  have same : (query.inlined write).countStatement =
      (do query.check; query.requireSelection; pure (query.inlined write).renderCount) := by
    rw [← requireSelection_inlined write query]
    rfl
  have none := args_renderCount_inlined write query
  rw [same]
  exact bound_of_checked (paired.fills_renderCount visible) none rendered

theorem Paired.bound_aggregateStatement (paired : query.Paired)
    (visible : ∀ value, write value ≠ "") (aggregate : Aggregate) (inert : Inert column)
    (rendered : query.aggregateStatement aggregate column = .ok statement) :
    ∃ meant, (query.inlined write).aggregateStatement aggregate column = .ok ⟨meant, []⟩ ∧
      Bound write statement meant := by
  have function : Inert aggregate.function := by cases aggregate <;> decide
  have call : Inert (aggregate.function ++ "(" ++ column ++ ")") :=
    ((function.append (by decide)).append inert).append (by decide)
  have fills := paired.fills_renderScalar visible (query.dialect.inert_floatCast call)
  have none := Conditions.args_inlined write query.conditions
  exact bound_of_checked fills none rendered

end Statements

/-- Whatever a program of calls builds, its statements have one placeholder for each argument, and
the argument of a number stands at the placeholder that it was supplied for: the same program with
every argument written into the text that it comes with renders the statement with the arguments
written at its placeholders in order. -/
theorem arguments_at_their_placeholders (write : Value → String)
    (visible : ∀ value, write value ≠ "") (connection : Connection) (table : String)
    (inert : Inert table) (steps : List Step) (supplied : AllSupplied steps) :
    (∀ statement, ((new connection table).applyAll steps).toSql = .ok statement →
      ∃ meant, ((new connection table).applyAll
          (inlinedSteps write connection.dialect steps)).toSql = .ok ⟨meant, []⟩ ∧
        Bound write statement meant) ∧
    (∀ statement, ((new connection table).applyAll steps).countStatement = .ok statement →
      ∃ meant, ((new connection table).applyAll
          (inlinedSteps write connection.dialect steps)).countStatement = .ok ⟨meant, []⟩ ∧
        Bound write statement meant) ∧
    (∀ aggregate column statement, Inert column →
      ((new connection table).applyAll steps).aggregateStatement aggregate column =
        .ok statement →
      ∃ meant, ((new connection table).applyAll
          (inlinedSteps write connection.dialect steps)).aggregateStatement aggregate column =
            .ok ⟨meant, []⟩ ∧
        Bound write statement meant) := by
  have start := paired_new connection inert
  have paired := start.applyAll steps supplied
  have same := inlined_applyAll visible start steps supplied
  rw [inlined_new] at same
  have dialect : (new connection table).dialect = connection.dialect := rfl
  rw [dialect] at same
  simp only [← same]
  refine ⟨?_, ?_, ?_⟩
  · intro statement rendered
    exact paired.bound_toSql visible rendered
  · intro statement rendered
    exact paired.bound_countStatement visible rendered
  · intro aggregate column statement named rendered
    exact paired.bound_aggregateStatement visible aggregate named rendered

theorem arguments_at_their_placeholders_nested :
    Bound (fun _ => "v")
      ⟨"SELECT ? AS kind, (SELECT * FROM orders WHERE note = '?' AND id IN (?, ?)) AS own FROM " ++
        "users WHERE EXTRACT(YEAR FROM born) > ? HAVING total > ?",
        [.text "user", .int 1, .int 2, .int 2000, .int 9]⟩
      ("SELECT v AS kind, (SELECT * FROM orders WHERE note = '?' AND id IN (v, v)) AS own FROM " ++
        "users WHERE EXTRACT(YEAR FROM born) > v HAVING total > v") := by
  obtain ⟨meant, rendered, bound⟩ := (arguments_at_their_placeholders (fun _ => "v") (by simp)
    ⟨.pool, .mySql⟩ "users" (by decide)
    [.havingRaw "total > ?" [.int 9], .whereDate (.component .year "born" ">" 2000),
      .selectRaw "? AS kind" [.text "user"],
      .selectSub (.mk (some .sqlite) "orders"
        [.andWhere "note = '?'" [], .whereIn "id" [.int 1, .int 2]]) "own"]
    (by simp only [AllSupplied, Step.Supplied, SubQuery.Supplied]; decide)).1 _ rfl
  obtain ⟨same, _⟩ := Statement.mk.inj (Except.ok.inj rendered)
  have moved : ∀ first second shown text, first = second → shown = text →
      Bound (fun _ => "v") first shown → Bound (fun _ => "v") second text := by
    rintro first _ shown _ rfl rfl held
    exact held
  refine moved _ _ _ _ ?_ ?_ bound
  · decide
  · rw [← same]
    decide +kernel

end FluentSql.Query
