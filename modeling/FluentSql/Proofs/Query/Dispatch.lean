import FluentSql.Proofs.Cache.ReadThrough
import FluentSql.Query.Reads

/-! What the reads of a builder execute: the statement that they render, once and in the form of the
dialect, unless it is refused or its rows are held. -/
namespace FluentSql

namespace Task

variable {σ α β : Type}

/-- A task that leaves the world as it is. -/
def Idle (task : Task σ α) : Prop := ∀ world, (task world).2 = world

theorem idle_pure (value : α) : (pure value : Task σ α).Idle := fun _ => rfl

theorem idle_ofExcept (result : Except Error α) : (ofExcept result : Task σ α).Idle := by
  cases result <;> exact fun _ => rfl

theorem idle_ofRow (result : Except Halt α) : (ofRow result : Task σ α).Idle := by
  rcases result with (error | _) | value <;> exact fun _ => rfl

theorem world_bind_of_idle (task : Task σ α) {next : α → Task σ β}
    (idle : ∀ value, (next value).Idle) (world : World σ) :
    ((task >>= next) world).2 = (task world).2 := by
  rcases bind_cases task next world with ⟨value, after, run, whole⟩ | same
  · rw [whole, idle value after, run]
  · exact same

end Task

namespace Query

/-- A builder that is not refused before it renders. -/
def Renders (query : Query) : Prop := query.check = .ok () ∧ query.requireSelection = .ok ()

theorem toSql_eq_ok_iff {query : Query} {statement : Statement} :
    query.toSql = .ok statement ↔ query.Renders ∧ statement = query.render := by
  unfold toSql Renders
  cases query.check with
  | error error => simp [bind, Except.bind]
  | ok _ =>
    cases query.requireSelection with
    | error error => simp [bind, Except.bind]
    | ok _ => simp [bind, Except.bind, pure, Except.pure, eq_comm]

theorem Renders.firstStatement_eq {query : Query} (renders : query.Renders) :
    query.firstStatement = .ok (query.setLimit 1).render :=
  toSql_eq_ok_iff.mpr ⟨renders, rfl⟩

theorem Renders.countStatement_eq {query : Query} (renders : query.Renders) :
    query.countStatement = .ok query.renderCount := by
  rw [countStatement, renders.1, renders.2]
  rfl

theorem renders_whereId (query : Query) (id : Value) :
    (query.whereId id).Renders ↔ query.Renders := Iff.rfl

variable {σ : Type}

/-- A read that needs no execution: it is refused, or the driver in use holds its rows. -/
def Spared (query : Query) (context : Context) (statement : Statement) (world : World σ) : Prop :=
  query.connection.refusal? context world ≠ none ∨
    ∃ ttl driver rows, query.connection.target = .pool ∧ query.ttl? = some ttl ∧
      world.cache.driver? = some driver ∧
      world.cache.find? driver (cacheKey statement.sql statement.args) = some rows

/-- From one world to another, what a read is to execute has been executed. -/
structure Executes (query : Query) (context : Context) (rendered : Except Error Statement)
    (world after : World (Ledger σ)) : Prop where
  failed : ∀ error, rendered = .error error → after = world
  spared : ∀ statement, rendered = .ok statement → query.Spared context statement world →
    after.backend.executions = world.backend.executions
  sent : ∀ statement, rendered = .ok statement → ¬ query.Spared context statement world →
    ∃ rows?, after.backend.executions = world.backend.executions ++
      [⟨query.connection.session?, query.dialect.rebind statement.sql, statement.args, rows?⟩]

variable [Backend σ] [CacheBlind σ]

theorem executes_selectCached (query : Query) (context : Context) (statement : Statement)
    (world : World (Ledger σ)) :
    query.Executes context (.ok statement) world
      (query.connection.selectCached context statement query.ttl? world).2 := by
  have law := query.connection.readThrough context statement query.ttl? world
  have ran (run : query.connection.Ran context statement world
      (query.connection.selectCached context statement query.ttl? world))
      (absent : ∀ ttl driver, query.connection.target = .pool → query.ttl? = some ttl →
        world.cache.driver? = some driver →
        world.cache.find? driver (cacheKey statement.sql statement.args) = none) :
      query.Executes context (.ok statement) world
        (query.connection.selectCached context statement query.ttl? world).2 := by
    refine ⟨nofun, ?_, ?_⟩
    · rintro _ ⟨⟩ (refused | ⟨ttl, driver, rows, pooled, timed, used, held⟩)
      · obtain ⟨error, refusal⟩ := Option.ne_none_iff_exists'.mp refused
        exact (run.refused error refusal).2
      · rw [absent ttl driver pooled timed used] at held
        cases held
    · rintro _ ⟨⟩ needed
      have sound : query.connection.refusal? context world = none :=
        Classical.byContradiction fun refused => needed (Or.inl refused)
      obtain ⟨rows?, executions, _⟩ := run.executed sound
      exact ⟨rows?, executions⟩
  by_cases bypassed : query.connection.target ≠ .pool ∨ query.ttl? = none ∨
      world.cache.driver? = none
  · refine ran (law.bypass bypassed).1 ?_
    intro ttl driver pooled timed used
    rw [timed, used] at bypassed
    simp [pooled] at bypassed
  · obtain ⟨pooled, timed, used⟩ : query.connection.target = .pool ∧ query.ttl? ≠ none ∧
        world.cache.driver? ≠ none := by
      simpa [not_or] using bypassed
    obtain ⟨ttl, timed⟩ := Option.ne_none_iff_exists'.mp timed
    obtain ⟨driver, used⟩ := Option.ne_none_iff_exists'.mp used
    cases found : world.cache.find? driver (cacheKey statement.sql statement.args) with
    | none =>
      refine ran (law.miss ttl driver pooled timed used found).1 ?_
      intro _ other _ _ same
      rw [used] at same
      cases same
      exact found
    | some rows =>
      rw [law.hit ttl driver rows pooled timed used found]
      refine ⟨nofun, fun _ _ _ => rfl, ?_⟩
      rintro _ ⟨⟩ needed
      exact absurd (Or.inr ⟨ttl, driver, rows, pooled, timed, used, found⟩) needed

theorem executes_fetch (query : Query) (context : Context) (rendered : Except Error Statement)
    (world : World (Ledger σ)) :
    query.Executes context rendered world (query.fetch context rendered world).2 := by
  cases rendered with
  | error error => exact ⟨fun _ _ => rfl, nofun, nofun⟩
  | ok statement => exact executes_selectCached query context statement world

/-- What follows the rows of a read executes nothing more. -/
theorem executes_fetch_bind {α : Type} (query : Query) (context : Context)
    (rendered : Except Error Statement) {next : List Row → Task (Ledger σ) α}
    (idle : ∀ rows, (next rows).Idle) (world : World (Ledger σ)) :
    query.Executes context rendered world ((query.fetch context rendered >>= next) world).2 := by
  rw [Task.world_bind_of_idle _ idle]
  exact executes_fetch query context rendered world

theorem executes_fetchScalar {α : Type} [FromValue α] (query : Query) (context : Context)
    (rendered : Except Error Statement) (world : World (Ledger σ)) :
    query.Executes context rendered world
      ((query.fetchScalar context rendered : Task (Ledger σ) α) world).2 := by
  refine executes_fetch_bind query context rendered ?_ world
  intro rows
  cases rows with
  | nil => exact fun _ => rfl
  | cons row rows => exact Task.idle_ofExcept _

theorem executes_get {α : Type} [FromRow α] (query : Query) (context : Context)
    (world : World (Ledger σ)) :
    query.Executes context query.toSql world
      ((query.get context : Task (Ledger σ) (List α)) world).2 :=
  executes_fetch_bind query context query.toSql (fun _ => Task.idle_ofRow _) world

theorem executes_first {α : Type} [FromRow α] (query : Query) (context : Context)
    (world : World (Ledger σ)) :
    query.Executes context query.firstStatement world
      ((query.first context : Task (Ledger σ) (Option α)) world).2 := by
  refine executes_fetch_bind query context query.firstStatement ?_ world
  intro rows
  cases rows with
  | nil => exact fun _ => rfl
  | cons row rows =>
    intro world
    exact (Task.world_bind_of_idle _ (fun _ => Task.idle_pure _) world).trans
      (Task.idle_ofRow _ world)

theorem executes_find {α : Type} [FromRow α] (query : Query) (context : Context) (id : Value)
    (world : World (Ledger σ)) :
    (query.whereId id).Executes context (query.whereId id).firstStatement world
      ((query.find context id : Task (Ledger σ) (Option α)) world).2 :=
  executes_first (query.whereId id) context world

theorem executes_count (query : Query) (context : Context) (world : World (Ledger σ)) :
    query.Executes context query.countStatement world
      ((query.count context : Task (Ledger σ) UInt64) world).2 :=
  executes_fetchScalar query context query.countStatement world

theorem executes_exists (query : Query) (context : Context) (world : World (Ledger σ)) :
    query.Executes context query.countStatement world
      ((query.exists? context : Task (Ledger σ) Bool) world).2 := by
  have counted := executes_count query context world
  rw [← Task.world_bind_of_idle (query.count context) (fun _ => Task.idle_pure _) world] at counted
  exact counted

theorem executes_aggregate (query : Query) (context : Context) (aggregate : Aggregate)
    (column : String) (world : World (Ledger σ)) :
    query.Executes context (query.aggregateStatement aggregate column) world
      ((query.aggregate context aggregate column : Task (Ledger σ) (Option Double)) world).2 :=
  executes_fetchScalar query context (query.aggregateStatement aggregate column) world

/-- A page is counted first, and read where the count asks for it. -/
theorem executes_paginate {α : Type} [FromRow α] (query : Query) (context : Context)
    (number perPage : UInt64) (world : World (Ledger σ)) :
    ∃ counted : World (Ledger σ),
      query.Executes context query.countStatement world counted ∧
        (((query.paginate context number perPage :
            Task (Ledger σ) (Pagination α)) world).2 = counted ∨
          (query.page (Pagination.clamp number) (Pagination.clamp perPage)).Executes context
            (query.page (Pagination.clamp number) (Pagination.clamp perPage)).toSql counted
            ((query.paginate context number perPage :
              Task (Ledger σ) (Pagination α)) world).2) := by
  refine ⟨((query.count context : Task (Ledger σ) UInt64) world).2,
    executes_count query context world, ?_⟩
  unfold paginate
  rcases Task.bind_cases (query.count context) _ world with ⟨total, counted, run, whole⟩ | same
  · rw [whole, run]
    dsimp only
    split
    · exact Or.inl rfl
    · right
      rw [Task.world_bind_of_idle _ (fun _ => Task.idle_pure _)]
      exact executes_get _ context counted
  · exact Or.inl same

end Query
end FluentSql
