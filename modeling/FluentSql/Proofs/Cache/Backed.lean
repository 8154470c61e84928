import FluentSql.Proofs.Cache.ReadThrough

/-! Drivers that hold nothing of their own: what they were set was returned by a statement of the
same key that has been executed on the pool. A read keeps them so. -/
namespace FluentSql

/-- Rows that a statement with a key has returned on the pool. -/
def Returned (key : String) (rows : List Row) (executions : List Execution) : Prop :=
  ∃ (dialect : Dialect) (statement : Statement),
    cacheKey statement.sql statement.args = key ∧
      ⟨none, dialect.rebind statement.sql, statement.args, some rows⟩ ∈ executions

theorem Returned.append (returned : Returned key rows executions) (more : List Execution) :
    Returned key rows (executions ++ more) := by
  obtain ⟨dialect, statement, same, present⟩ := returned
  exact ⟨dialect, statement, same, List.mem_append_left more present⟩

/-- Every driver has been set what it holds, and only to rows that were returned. -/
structure Backed (world : World (Ledger σ)) : Prop where
  returned : ∀ driver key rows ttl, CacheCall.set driver key rows ttl ∈ world.cache.calls →
    Returned key rows world.backend.executions
  held : ∀ driver key rows, world.cache.find? driver key = some rows →
    ∃ ttl, CacheCall.set driver key rows ttl ∈ world.cache.calls

theorem backed_of_empty {world : World (Ledger σ)} (empty : world.cache = .empty) :
    Backed world := by
  constructor
  · intro driver key rows ttl present
    rw [empty] at present
    cases present
  · intro driver key rows found
    rw [empty] at found
    cases found

/-- What goes on away from the cache: statements may run, and no driver is asked. -/
structure Away (before after : World (Ledger σ)) : Prop where
  cache : after.cache = before.cache
  executions : ∃ more, after.backend.executions = before.backend.executions ++ more

theorem Backed.of_away {before after : World (Ledger σ)} (backed : Backed before)
    (away : Away before after) : Backed after := by
  obtain ⟨more, executions⟩ := away.executions
  constructor
  · intro driver key rows ttl present
    rw [away.cache] at present
    rw [executions]
    exact (backed.returned driver key rows ttl present).append more
  · intro driver key rows found
    rw [away.cache] at found ⊢
    exact backed.held driver key rows found

theorem Connection.Ran.away {connection : Connection} {context : Context} {statement : Statement}
    {world : World (Ledger σ)} {result : Ending (List Row) × World (Ledger σ)}
    (ran : connection.Ran context statement world result) :
    ∃ more, result.2.backend.executions = world.backend.executions ++ more := by
  cases refusal : connection.refusal? context world with
  | some error => exact ⟨[], by rw [(ran.refused error refusal).2, List.append_nil]⟩
  | none =>
    obtain ⟨rows?, executions, _⟩ := ran.executed refusal
    exact ⟨_, executions⟩

/-- Rows that a read on the pool is done with have been returned there. -/
theorem Connection.Ran.returned {connection : Connection} {context : Context}
    {statement : Statement} {world after : World (Ledger σ)} {rows : List Row}
    (ran : connection.Ran context statement world (.done rows, after))
    (pooled : connection.target = .pool) :
    Returned (cacheKey statement.sql statement.args) rows after.backend.executions := by
  cases refusal : connection.refusal? context world with
  | some error =>
    have failed := (ran.refused error refusal).1
    cases failed
  | none =>
    obtain ⟨rows?, executions, answer⟩ := ran.executed refusal
    have found : rows? = some rows := (answer rows).mp rfl
    subst found
    have own : connection.session? = none := by
      unfold Connection.session?
      rw [pooled]
    refine ⟨connection.dialect, statement, rfl, ?_⟩
    have last : after.backend.executions = _ := executions
    rw [last, own]
    exact List.mem_append_right _ (List.mem_singleton_self _)

/-- Being asked for a key changes nothing that a driver holds, nor what it was set. -/
theorem Backed.asked {world : World (Ledger σ)} (backed : Backed world) (driver : DriverId)
    (key : String) : Backed (world.asked driver key) := by
  have only (driver' : DriverId) (key' : String) (rows : List Row) (ttl : Duration)
      (present : CacheCall.set driver' key' rows ttl ∈ (world.asked driver key).cache.calls) :
      CacheCall.set driver' key' rows ttl ∈ world.cache.calls := by
    rcases List.mem_append.mp present with before | last
    · exact before
    · cases List.mem_singleton.mp last
  constructor
  · intro driver' key' rows ttl present
    exact backed.returned driver' key' rows ttl (only driver' key' rows ttl present)
  · intro driver' key' rows found
    obtain ⟨ttl, present⟩ := backed.held driver' key' rows found
    exact ⟨ttl, List.mem_append_left _ present⟩

/-- Rows that were returned may be set under their key. -/
theorem Backed.set {world : World (Ledger σ)} (backed : Backed world) {key : String}
    {rows : List Row} (returned : Returned key rows world.backend.executions) (driver : DriverId)
    (ttl : Duration) : Backed { world with cache := world.cache.set driver key rows ttl } := by
  constructor
  · intro driver' key' rows' ttl' present
    rcases List.mem_append.mp present with before | last
    · exact backed.returned driver' key' rows' ttl' before
    · cases List.mem_singleton.mp last
      exact returned
  · intro driver' key' rows' found
    by_cases same : driver' = driver ∧ key' = key
    · obtain ⟨rfl, rfl⟩ := same
      have own : some rows = some rows' :=
        (world.cache.find?_set_self driver' key' rows ttl).symm.trans found
      cases own
      exact ⟨ttl, List.mem_append_right _ (List.mem_singleton_self _)⟩
    · have apart : driver' ≠ driver ∨ key' ≠ key := by
        by_cases differs : driver' = driver
        · exact Or.inr fun equal => same ⟨differs, equal⟩
        · exact Or.inl differs
      have before : world.cache.find? driver' key' = some rows' :=
        (world.cache.find?_set_of_ne rows ttl apart).symm.trans found
      obtain ⟨ttl', present⟩ := backed.held driver' key' rows' before
      exact ⟨ttl', List.mem_append_left _ present⟩

section Reads

variable {σ α β : Type}

/-- A task after which every driver is backed if it was before. -/
def Task.KeepsBacked (task : Task (Ledger σ) α) : Prop :=
  ∀ world, Backed world → Backed (task world).2

theorem Task.keepsBacked_ofExcept (result : Except Error α) :
    (Task.ofExcept result : Task (Ledger σ) α).KeepsBacked := by
  cases result <;> exact fun _ backed => backed

theorem Task.keepsBacked_ofRow (result : Except Halt α) :
    (Task.ofRow result : Task (Ledger σ) α).KeepsBacked := by
  rcases result with (error | _) | value <;> exact fun _ backed => backed

theorem Task.KeepsBacked.bind {task : Task (Ledger σ) α} {next : α → Task (Ledger σ) β}
    (keeps : task.KeepsBacked) (rest : ∀ value, (next value).KeepsBacked) :
    (task >>= next).KeepsBacked := by
  intro world backed
  have first := keeps world backed
  rcases Task.bind_cases task next world with ⟨value, after, run, whole⟩ | same
  · rw [run] at first
    rw [whole]
    exact rest value after first
  · rw [same]
    exact first

variable [Backend σ] [CacheBlind σ]

theorem Connection.keepsBacked_selectCached (connection : Connection) (context : Context)
    (statement : Statement) (ttl? : Option Duration) :
    (connection.selectCached context statement ttl? :
      Task (Ledger σ) (List Row)).KeepsBacked := by
  intro world backed
  have law := connection.readThrough context statement ttl? world
  by_cases bypassed : connection.target ≠ .pool ∨ ttl? = none ∨ world.cache.driver? = none
  · obtain ⟨ran, cache⟩ := law.bypass bypassed
    exact backed.of_away ⟨cache, ran.away⟩
  · obtain ⟨pooled, timed, used⟩ : connection.target = .pool ∧ ttl? ≠ none ∧
        world.cache.driver? ≠ none := by
      simpa [not_or] using bypassed
    obtain ⟨ttl, rfl⟩ := Option.ne_none_iff_exists'.mp timed
    obtain ⟨driver, used⟩ := Option.ne_none_iff_exists'.mp used
    cases found : world.cache.find? driver (cacheKey statement.sql statement.args) with
    | some rows =>
      rw [law.hit ttl driver rows pooled rfl used found]
      exact backed.asked driver _
    | none =>
      obtain ⟨ran, cache⟩ := law.miss ttl driver pooled rfl used found
      have asked := backed.asked driver (cacheKey statement.sql statement.args)
      cases run : connection.selectCached context statement (some ttl) world with
      | mk ending after =>
        rw [run] at ran cache
        have later : Backed { after with
            cache := (world.asked driver (cacheKey statement.sql statement.args)).cache } :=
          asked.of_away ⟨rfl, ran.away⟩
        cases ending with
        | done rows =>
          have stored := later.set (ran.returned pooled) driver ttl
          exact stored.of_away ⟨cache, ⟨[], (List.append_nil _).symm⟩⟩
        | _ => exact later.of_away ⟨cache, ⟨[], (List.append_nil _).symm⟩⟩

end Reads
end FluentSql
