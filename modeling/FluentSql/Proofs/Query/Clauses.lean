import FluentSql.Proofs.Query.Faults
import FluentSql.Query.Reads

/-! Calls on different clauses of a builder commute. What a call makes of its clause depends on that
clause alone, so the calls of a program on each clause tell what it builds. -/
namespace FluentSql.Query

/-- What calls configure one by one. -/
inductive Clause where
  | label
  | columns
  | joins
  | conditions
  | groupBy
  | having
  | ordering
  | limit
  | offset
  | lock
  | operands
  deriving DecidableEq

/-- The clause that a call configures. To be kept in a cache or to run in a transaction is none, and
to become a column of a new builder is not one alone. -/
def Step.clause? : Step → Option Clause
  | .tableAlias _ => some .label
  | .select _ | .selectRaw _ _ | .selectSub _ _ | .window _ _ _ _ => some .columns
  | .join _ _ _ => some .joins
  | .andWhere _ _ | .orWhere _ _ | .whereId _ | .whereGroup _ _ | .whereIn _ _ | .whereNotIn _ _
  | .whereNull _ | .whereNotNull _ | .whereBetween _ _ _ | .whereNotBetween _ _ _
  | .whereSubQuery _ _ _ | .whereDate _ => some .conditions
  | .groupBy _ => some .groupBy
  | .having _ | .havingRaw _ _ => some .having
  | .orderBy _ _ => some .ordering
  | .limit _ => some .limit
  | .offset _ => some .offset
  | .lock _ | .lockModifier _ => some .lock
  | .union _ _ => some .operands
  | .remember _ | .withTransaction _ | .subQuery _ => none

/-- The calls of a program on one clause, in their order. -/
def callsOn (clause : Clause) (steps : List Step) : List Step :=
  steps.filter fun step => step.clause? = some clause

/-- A builder with one clause and no other, of the same table and dialect. -/
def only (query : Query) (clause : Clause) : Query :=
  let bare := new ⟨.pool, query.dialect⟩ query.table
  match clause with
  | .label => { bare with alias? := query.alias? }
  | .columns => { bare with columns := query.columns, columnArgs := query.columnArgs }
  | .joins => { bare with joins := query.joins }
  | .conditions => { bare with conditions := query.conditions }
  | .groupBy => { bare with groupBy := query.groupBy }
  | .having => { bare with having := query.having, havingArgs := query.havingArgs }
  | .ordering => { bare with orderBy := query.orderBy }
  | .limit => { bare with limit? := query.limit? }
  | .offset => { bare with offset? := query.offset? }
  | .lock => { bare with lock? := query.lock? }
  | .operands => { bare with operands := query.operands }

/-- A call that leaves a builder of a dialect in its place and on that dialect. -/
def Step.Configures (dialect : Dialect) : Step → Prop
  | .subQuery _ => False
  | .withTransaction connection => connection.dialect = dialect
  | _ => True

theorem dialect_only (query : Query) (clause : Clause) :
    (query.only clause).dialect = query.dialect := by
  cases clause <;> rfl

/-- A call leaves the other clauses as they are. -/
theorem only_apply_of_ne {query : Query} {step : Step} {clause : Clause}
    (configures : step.Configures query.dialect) (other : step.clause? ≠ some clause) :
    (query.apply step).only clause = query.only clause := by
  cases step with
  | subQuery label => exact absurd configures id
  | withTransaction connection =>
    have kept : (query.withTransaction connection).dialect = query.dialect := configures
    simp only [apply, only, kept]
    rfl
  | selectSub sub label =>
    rw [apply, selectSub, absorb_eq]
    cases clause <;> first | rfl | exact absurd rfl other
  | whereSubQuery column op sub =>
    rw [apply, whereSubQuery, absorb_eq]
    cases clause <;> first | rfl | exact absurd rfl other
  | union all sub =>
    rw [apply, addOperand, absorb_eq]
    cases clause <;> first | rfl | exact absurd rfl other
  | whereIn column values =>
    simp only [apply, whereIn]
    split <;> cases clause <;> first | rfl | exact absurd rfl other
  | whereNotIn column values =>
    simp only [apply, whereNotIn]
    split <;> cases clause <;> first | rfl | exact absurd rfl other
  | whereDate condition =>
    simp only [apply, whereDate, fail_eq]
    split <;> cases clause <;> first | rfl | exact absurd rfl other
  | orderBy column direction =>
    simp only [apply, addOrder, fail_eq]
    split <;> cases clause <;> first | rfl | exact absurd rfl other
  | lockModifier modifier =>
    simp only [apply, lockModifier, fail_eq]
    split <;> cases clause <;> first | rfl | exact absurd rfl other
  | _ => cases clause <;> first | rfl | exact absurd rfl other

/-- What a call makes of its own clause depends on that clause alone. -/
theorem only_apply_only {query : Query} {step : Step} {clause : Clause}
    (own : step.clause? = some clause) :
    (query.apply step).only clause = ((query.only clause).apply step).only clause := by
  cases step with
  | subQuery label | withTransaction connection | remember ttl => cases own
  | selectSub sub label =>
    obtain rfl := Option.some.inj own
    simp only [apply, selectSub, absorb_eq]
    rfl
  | whereSubQuery column op sub =>
    obtain rfl := Option.some.inj own
    simp only [apply, whereSubQuery, absorb_eq]
    rfl
  | union all sub =>
    obtain rfl := Option.some.inj own
    simp only [apply, addOperand, absorb_eq]
    rfl
  | whereIn column values =>
    obtain rfl := Option.some.inj own
    simp only [apply, whereIn]
    split <;> rfl
  | whereNotIn column values =>
    obtain rfl := Option.some.inj own
    simp only [apply, whereNotIn]
    split <;> rfl
  | whereDate condition =>
    obtain rfl := Option.some.inj own
    simp only [apply, whereDate, fail_eq, dialect_only]
    split <;> rfl
  | orderBy column direction =>
    obtain rfl := Option.some.inj own
    simp only [apply, addOrder, fail_eq]
    split <;> rfl
  | lockModifier modifier =>
    obtain rfl := Option.some.inj own
    have held : (query.only .lock).lock? = query.lock? := rfl
    simp only [apply, lockModifier, fail_eq, held]
    split <;> rfl
  | _ =>
    obtain rfl := Option.some.inj own
    rfl

/-- One call on two builders that agree on a clause: they agree on it behind the call, and where it
is on another clause they do so without it. -/
theorem only_apply {query other : Query} {step : Step} {clause : Clause}
    (same : query.only clause = other.only clause) (own : step.clause? = some clause) :
    (query.apply step).only clause = (other.apply step).only clause := by
  rw [only_apply_only own, same, ← only_apply_only own]

theorem dialect_of_configures {query : Query} {step : Step}
    (configures : step.Configures query.dialect) :
    (query.apply step).dialect = query.dialect := by
  rw [dialect_apply]
  cases step with
  | withTransaction connection => exact configures
  | _ => rfl

/-- A program makes of a clause what its calls on that clause make of it. -/
theorem only_applyAll {query other : Query} {clause : Clause} {steps : List Step}
    (configures : ∀ step ∈ steps, step.Configures query.dialect)
    (same : query.only clause = other.only clause) :
    (query.applyAll steps).only clause = (other.applyAll (callsOn clause steps)).only clause := by
  induction steps generalizing query other with
  | nil => exact same
  | cons step rest ih =>
    obtain ⟨here, behind⟩ := List.forall_mem_cons.mp configures
    rw [← dialect_of_configures here] at behind
    rw [applyAll]
    by_cases own : step.clause? = some clause
    · rw [callsOn, List.filter_cons_of_pos (by simpa using own), applyAll]
      exact ih behind (only_apply same own)
    · rw [callsOn, List.filter_cons_of_neg (by simpa using own)]
      exact ih behind ((only_apply_of_ne here own).trans same)

/-- Builders that agree on every clause. -/
def SameClauses (query other : Query) : Prop := ∀ clause, query.only clause = other.only clause

/-- Then they differ in nothing but where they run, how long they are kept and what has failed. -/
theorem SameClauses.exists_eq {query other : Query} (same : query.SameClauses other) :
    ∃ target ttl? fault?, other =
      { query with connection := ⟨target, query.dialect⟩, ttl? := ttl?, fault? := fault? } := by
  have part {α : Type} (clause : Clause) (field : Query → α) :
      field (query.only clause) = field (other.only clause) := congrArg field (same clause)
  have dialect : query.dialect = other.dialect := part .label Query.dialect
  have table : query.table = other.table := part .label Query.table
  have label : query.alias? = other.alias? := part .label Query.alias?
  have columns : query.columns = other.columns := part .columns Query.columns
  have columnArgs : query.columnArgs = other.columnArgs := part .columns Query.columnArgs
  have joins : query.joins = other.joins := part .joins Query.joins
  have conditions : query.conditions = other.conditions := part .conditions Query.conditions
  have groupBy : query.groupBy = other.groupBy := part .groupBy Query.groupBy
  have having : query.having = other.having := part .having Query.having
  have havingArgs : query.havingArgs = other.havingArgs := part .having Query.havingArgs
  have orderBy : query.orderBy = other.orderBy := part .ordering Query.orderBy
  have limit : query.limit? = other.limit? := part .limit Query.limit?
  have offset : query.offset? = other.offset? := part .offset Query.offset?
  have lock : query.lock? = other.lock? := part .lock Query.lock?
  have operands : query.operands = other.operands := part .operands Query.operands
  refine ⟨other.connection.target, other.ttl?, other.fault?, ?_⟩
  rw [dialect, table, label, columns, columnArgs, joins, conditions, groupBy, having, havingArgs,
    orderBy, limit, offset, lock, operands]
  rfl

section Rendering

variable {query other : Query} (same : query.SameClauses other)
include same

theorem SameClauses.render_eq : query.render = other.render := by
  obtain ⟨target, ttl?, fault?, rfl⟩ := same.exists_eq
  rfl

theorem SameClauses.renderCount_eq : query.renderCount = other.renderCount := by
  obtain ⟨target, ttl?, fault?, rfl⟩ := same.exists_eq
  rfl

theorem SameClauses.renderScalar_eq (expr : String) :
    query.renderScalar expr = other.renderScalar expr := by
  obtain ⟨target, ttl?, fault?, rfl⟩ := same.exists_eq
  rfl

theorem SameClauses.requireSelection_eq : query.requireSelection = other.requireSelection := by
  obtain ⟨target, ttl?, fault?, rfl⟩ := same.exists_eq
  rfl

theorem SameClauses.requireTable_eq (operation : String) :
    query.requireTable operation = other.requireTable operation := by
  obtain ⟨target, ttl?, fault?, rfl⟩ := same.exists_eq
  rfl

theorem SameClauses.floatCast_eq (expr : String) :
    query.dialect.floatCast expr = other.dialect.floatCast expr := by
  obtain ⟨target, ttl?, fault?, rfl⟩ := same.exists_eq
  rfl

end Rendering

/-- A program of calls on a new builder, none of which fails. -/
structure Builds (connection : Connection) (table : String) (steps : List Step) : Prop where
  configures : ∀ step ∈ steps, step.Configures connection.dialect
  faultless : ((new connection table).applyAll steps).fault? = none

/-- Programs with the same calls on each clause in the same order agree on every clause. -/
theorem sameClauses_of_callsOn_eq {connection : Connection} {table : String}
    {first second : List Step} (builds : Builds connection table first)
    (others : Builds connection table second)
    (same : ∀ clause, callsOn clause first = callsOn clause second) :
    ((new connection table).applyAll first).SameClauses
      ((new connection table).applyAll second) := by
  intro clause
  rw [only_applyAll builds.configures rfl, same clause, ← only_applyAll others.configures rfl]

/-- Calls on different clauses commute: the select, the count and the aggregates of a program are
those of any other with the same calls on each clause in the same order. -/
theorem calls_on_different_clauses_commute {connection : Connection} {table : String}
    {first second : List Step} (builds : Builds connection table first)
    (others : Builds connection table second)
    (same : ∀ clause, callsOn clause first = callsOn clause second) :
    ((new connection table).applyAll first).toSql =
      ((new connection table).applyAll second).toSql ∧
    ((new connection table).applyAll first).countStatement =
      ((new connection table).applyAll second).countStatement ∧
    ∀ aggregate column,
      ((new connection table).applyAll first).aggregateStatement aggregate column =
        ((new connection table).applyAll second).aggregateStatement aggregate column := by
  have agree := sameClauses_of_callsOn_eq builds others same
  have checked : ((new connection table).applyAll first).check =
      ((new connection table).applyAll second).check := by
    rw [check, check, builds.faultless, others.faultless]
  refine ⟨?_, ?_, fun aggregate column => ?_⟩
  · rw [toSql, toSql, checked, agree.requireSelection_eq, agree.render_eq]
  · rw [countStatement, countStatement, checked, agree.requireSelection_eq, agree.renderCount_eq]
  · simp only [aggregateStatement, checked, agree.requireTable_eq, agree.floatCast_eq,
      agree.renderScalar_eq]

theorem calls_on_different_clauses_commute_orders :
    ((new ⟨.pool, .postgres⟩ "orders").applyAll
      [.orderBy "id" "desc", .andWhere "a = ?" [.int 1], .selectRaw "? AS n" [.int 2],
        .havingRaw "COUNT(*) > ?" [.int 3], .orWhere "b = ?" [.int 4]]).toSql =
    ((new ⟨.pool, .postgres⟩ "orders").applyAll
      [.havingRaw "COUNT(*) > ?" [.int 3], .andWhere "a = ?" [.int 1], .orWhere "b = ?" [.int 4],
        .selectRaw "? AS n" [.int 2], .orderBy "id" "desc"]).toSql := by
  have descending : IsDirection "desc" := by decide
  refine (calls_on_different_clauses_commute ⟨?_, ?_⟩ ⟨?_, ?_⟩ fun clause => ?_).1
  · simp [Step.Configures]
  · rw [fault?_program]
    simp [firstFault?, Step.fault?, descending]
  · simp [Step.Configures]
  · rw [fault?_program]
    simp [firstFault?, Step.fault?, descending]
  · cases clause <;> rfl

end FluentSql.Query
