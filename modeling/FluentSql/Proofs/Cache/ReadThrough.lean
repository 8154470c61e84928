import FluentSql.Proofs.Cache.Ledger

/-! One read through the cache: a hit asks no backend, a miss runs the statement once and keeps its
rows when it succeeds. -/
namespace FluentSql

namespace Task

variable {σ α : Type}

/-- What is logged about a task does not change how it ends. -/
theorem attempt_report (task : Task σ α) (event : Except Error α → LogEvent) (world : World σ) :
    ∃ log, (do
        let result ← task.attempt
        report (event result)
        ofExcept result : Task σ α) world =
      ((task world).1, { (task world).2 with log := log }) := by
  cases run : task world with
  | mk ending after =>
    cases ending with
    | done value =>
      rw [bind_of_done (attempt_of_done run)]
      exact ⟨_, rfl⟩
    | failed error =>
      rw [bind_of_done (attempt_of_failed run)]
      exact ⟨_, rfl⟩
    | overtaken depth error =>
      rw [bind_of_overtaken (attempt_of_overtaken run)]
      exact ⟨after.log, rfl⟩
    | panicked message =>
      rw [bind_apply, Task.attempt, run]
      exact ⟨after.log, rfl⟩
    | stuck =>
      rw [bind_apply, Task.attempt, run]
      exact ⟨after.log, rfl⟩

end Task

/-- The world after a driver was asked for a key. -/
def World.asked (world : World σ) (driver : DriverId) (key : String) : World σ :=
  { world with cache := (world.cache.get driver key).2 }

namespace Connection

variable {σ : Type}

/-- Why a statement is not started: it has nowhere to run, or the context has fired already. -/
def refusal? (connection : Connection) (context : Context) (world : World σ) : Option Error :=
  match (connection.executor world).1 with
  | .failed error => some error
  | _ => context.fault? world.clock

/-- A statement that runs reaches the backend once, and it is done with the rows that the backend
returns. A refused one does not reach it. -/
structure Ran (connection : Connection) (context : Context) (statement : Statement)
    (world : World (Ledger σ)) (result : Ending (List Row) × World (Ledger σ)) : Prop where
  refused : ∀ error, connection.refusal? context world = some error →
    result.1 = .failed error ∧ result.2.backend.executions = world.backend.executions
  executed : connection.refusal? context world = none →
    ∃ rows?, result.2.backend.executions = world.backend.executions ++
        [⟨connection.session?, connection.dialect.rebind statement.sql, statement.args, rows?⟩] ∧
      ∀ rows, result.1 = .done rows ↔ rows? = some rows

theorem leavesCache_dispatch {α : Type} (connection : Connection) (context : Context) (sql : String)
    (args : List Value) {operation : Option SessionId → String → List Value → Task σ α}
    (leaves : ∀ session? sql args, (operation session? sql args).LeavesCache) :
    (connection.dispatch context sql args operation).LeavesCache := by
  have asked : (connection.executor : Task σ (Option SessionId)).LeavesCache := by
    intro world
    rcases executor_cases connection world with found | ⟨error, refused⟩
    · rw [found]
    · rw [refused]
  have logged (event : LogEvent) : (Task.report event : Task σ Unit).LeavesCache := fun _ => rfl
  refine asked.bind fun session? => ?_
  refine (((leaves session? _ args).within context).attempt).bind fun result => ?_
  exact (logged _).bind fun _ => Task.leavesCache_ofExcept result

variable [Backend σ]

/-- A query under a context that has not fired. -/
theorem query_within (context : Context) (session? : Option SessionId) (sql : String)
    (args : List Value) (world : World (Ledger σ)) (sound : context.fault? world.clock = none) :
    ∃ rows?, ((Backend.query session? sql args : Task (Ledger σ) (List Row)).within context
          world).2.backend.executions =
        world.backend.executions ++ [⟨session?, sql, args, rows?⟩] ∧
      ∀ rows, ((Backend.query session? sql args : Task (Ledger σ) (List Row)).within context
        world).1 = .done rows ↔ rows? = some rows := by
  unfold Task.within
  rw [sound]
  simp only [Backend.query, Ledger.entered]
  cases (Backend.query session? sql args : Task σ (List Row))
      (Ledger.inner { world with guards := context :: world.guards }) with
  | mk ending after =>
    cases ending with
    | done rows => exact ⟨some rows, rfl, fun other => by simp⟩
    | overtaken depth error =>
      refine ⟨none, ?_, fun rows => ?_⟩
      · dsimp only
        split <;> rfl
      · dsimp only
        split <;> simp
    | failed error => exact ⟨none, rfl, fun rows => by simp⟩
    | panicked message => exact ⟨none, rfl, fun rows => by simp⟩
    | stuck => exact ⟨none, rfl, fun rows => by simp⟩

/-- A statement that has somewhere to run ends as its query does. -/
theorem select_of_found {connection : Connection} {world : World σ}
    (found : connection.executor world = (.done connection.session?, world)) (context : Context)
    (sql : String) (args : List Value) :
    ∃ log, connection.select context sql args world =
      (((Backend.query connection.session? (connection.dialect.rebind sql) args).within context
          world).1,
        { ((Backend.query connection.session? (connection.dialect.rebind sql) args).within context
          world).2 with log := log }) := by
  unfold select dispatch
  rw [Task.bind_of_done found]
  exact Task.attempt_report _ _ world

theorem ran_select (connection : Connection) (context : Context) (statement : Statement)
    (world : World (Ledger σ)) :
    connection.Ran context statement world
      (connection.select context statement.sql statement.args world) := by
  rcases executor_cases connection world with found | ⟨error, noExecutor⟩
  · obtain ⟨log, whole⟩ := select_of_found found context statement.sql statement.args
    have asked : connection.refusal? context world = context.fault? world.clock := by
      unfold refusal?
      rw [found]
    rw [whole]
    constructor
    · intro error refused
      unfold Task.within
      rw [← asked, refused]
      exact ⟨rfl, rfl⟩
    · intro sound
      exact query_within context _ _ _ world (asked.symm.trans sound)
  · have refusal : connection.refusal? context world = some error := by
      unfold refusal?
      rw [noExecutor]
    have whole : connection.select context statement.sql statement.args world =
        (.failed error, world) := Task.bind_of_failed noExecutor _
    rw [whole]
    constructor
    · intro other refused
      have same : error = other := Option.some.inj (refusal.symm.trans refused)
      subst same
      exact ⟨rfl, rfl⟩
    · intro sound
      rw [refusal] at sound
      cases sound

theorem leavesCache_select [CacheBlind σ] (connection : Connection) (context : Context)
    (sql : String) (args : List Value) :
    (connection.select context sql args : Task σ (List Row)).LeavesCache :=
  leavesCache_dispatch connection context sql args CacheBlind.query_leavesCache

/-- A read as the cache in front of the backend sees it. -/
structure ReadThrough (connection : Connection) (context : Context) (statement : Statement)
    (ttl? : Option Duration) (world : World (Ledger σ))
    (result : Ending (List Row) × World (Ledger σ)) : Prop where
  /-- Off the pool, without a time to live and without a driver the statement runs, and no driver is
  asked or written to. -/
  bypass : connection.target ≠ .pool ∨ ttl? = none ∨ world.cache.driver? = none →
    connection.Ran context statement world result ∧ result.2.cache = world.cache
  /-- A hit is the answer, and nothing runs. -/
  hit : ∀ ttl driver rows, connection.target = .pool → ttl? = some ttl →
    world.cache.driver? = some driver →
    world.cache.find? driver (cacheKey statement.sql statement.args) = some rows →
      result = (.done rows, world.asked driver (cacheKey statement.sql statement.args))
  /-- After a miss the statement runs, and its rows are set under the key that was asked for when it
  is done, and only then. -/
  miss : ∀ ttl driver, connection.target = .pool → ttl? = some ttl →
    world.cache.driver? = some driver →
    world.cache.find? driver (cacheKey statement.sql statement.args) = none →
      connection.Ran context statement world result ∧
      result.2.cache = match result.1 with
        | .done rows => (world.asked driver (cacheKey statement.sql statement.args)).cache.set
            driver (cacheKey statement.sql statement.args) rows ttl
        | _ => (world.asked driver (cacheKey statement.sql statement.args)).cache

omit [Backend σ] in
theorem refusal?_asked (connection : Connection) (context : Context) (world : World σ)
    (cache : Cache) : connection.refusal? context { world with cache := cache } =
      connection.refusal? context world := by
  unfold refusal? executor
  cases connection.target with
  | pool => rfl
  | detached => rfl
  | transaction session => by_cases isOpen : session ∈ world.sessions <;> simp [isOpen]

omit [Backend σ] in
/-- Neither what the driver was asked before nor what it is told behind changes what has run. -/
theorem Ran.of_asked {connection : Connection} {context : Context} {statement : Statement}
    {world : World (Ledger σ)} {asked told : Cache}
    {result : Ending (List Row) × World (Ledger σ)}
    (ran : connection.Ran context statement { world with cache := asked } result) :
    connection.Ran context statement world (result.1, { result.2 with cache := told }) := by
  constructor
  · intro error refused
    exact ran.refused error ((refusal?_asked connection context world asked).trans refused)
  · intro sound
    exact ran.executed ((refusal?_asked connection context world asked).trans sound)

theorem selectCached_of_bypass {connection : Connection} {ttl? : Option Duration} {world : World σ}
    (bypassed : connection.target ≠ .pool ∨ ttl? = none ∨ world.cache.driver? = none)
    (context : Context) (statement : Statement) :
    connection.selectCached context statement ttl? world =
      connection.select context statement.sql statement.args world := by
  have inUse : (Task.read fun world => world.cache.driver?) world =
      (.done world.cache.driver?, world) := rfl
  unfold selectCached
  rw [Task.bind_of_done inUse]
  refine congrFun ?_ world
  split
  · rename_i _ ttl driver pooled used
    rcases bypassed with off | untimed | unused
    · exact absurd pooled off
    · cases untimed
    · rw [used] at unused
      cases unused
  · rfl

section Cached

variable {connection : Connection} {ttl : Duration} {driver : DriverId} {world : World σ}

theorem selectCached_of_hit (pooled : connection.target = .pool)
    (used : world.cache.driver? = some driver) (context : Context) {statement : Statement}
    {rows : List Row}
    (held : world.cache.find? driver (cacheKey statement.sql statement.args) = some rows) :
    connection.selectCached context statement (some ttl) world =
      (.done rows, world.asked driver (cacheKey statement.sql statement.args)) := by
  have inUse : (Task.read fun world => world.cache.driver?) world =
      (.done (some driver), world) := by
    rw [← used]
    rfl
  have found : selectCached.lookup driver (cacheKey statement.sql statement.args) world =
      (.done (some rows), world.asked driver (cacheKey statement.sql statement.args)) := by
    rw [← held]
    rfl
  unfold selectCached
  rw [Task.bind_of_done inUse, pooled]
  dsimp only
  rw [Task.bind_of_done found]
  rfl

/-- After a miss the statement runs with the driver asked, and the rows of one that is done are
set. -/
theorem selectCached_of_miss (pooled : connection.target = .pool)
    (used : world.cache.driver? = some driver) (context : Context) {statement : Statement}
    (absent : world.cache.find? driver (cacheKey statement.sql statement.args) = none) :
    connection.selectCached context statement (some ttl) world =
      (do
        let rows ← connection.select context statement.sql statement.args
        Task.modify fun world => { world with
          cache := world.cache.set driver (cacheKey statement.sql statement.args) rows ttl }
        pure rows : Task σ (List Row))
        (world.asked driver (cacheKey statement.sql statement.args)) := by
  have inUse : (Task.read fun world => world.cache.driver?) world =
      (.done (some driver), world) := by
    rw [← used]
    rfl
  have found : selectCached.lookup driver (cacheKey statement.sql statement.args) world =
      (.done none, world.asked driver (cacheKey statement.sql statement.args)) := by
    rw [← absent]
    rfl
  unfold selectCached
  rw [Task.bind_of_done inUse, pooled]
  dsimp only
  rw [Task.bind_of_done found]

end Cached

/-- Every read goes through the cache as it should, whatever the state of the world. -/
theorem readThrough [CacheBlind σ] (connection : Connection) (context : Context)
    (statement : Statement) (ttl? : Option Duration) (world : World (Ledger σ)) :
    connection.ReadThrough context statement ttl? world
      (connection.selectCached context statement ttl? world) := by
  constructor
  · intro bypassed
    rw [selectCached_of_bypass bypassed]
    exact ⟨ran_select connection context statement world,
      leavesCache_select connection context statement.sql statement.args world⟩
  · intro ttl driver rows pooled timed used held
    subst timed
    exact selectCached_of_hit pooled used context held
  · intro ttl driver pooled timed used absent
    subst timed
    rw [selectCached_of_miss pooled used context absent]
    have ran := ran_select connection context statement
      (world.asked driver (cacheKey statement.sql statement.args))
    have leaves := leavesCache_select connection context statement.sql statement.args
      (world.asked driver (cacheKey statement.sql statement.args))
    rw [Task.bind_apply]
    cases run : connection.select context statement.sql statement.args
        (world.asked driver (cacheKey statement.sql statement.args)) with
    | mk ending after =>
      rw [run] at ran leaves
      cases ending with
      | done rows =>
        have same : after.cache =
            (world.asked driver (cacheKey statement.sql statement.args)).cache := leaves
        refine ⟨ran.of_asked, ?_⟩
        rw [← same]
        rfl
      | _ => exact ⟨ran.of_asked, leaves⟩

end Connection
end FluentSql
