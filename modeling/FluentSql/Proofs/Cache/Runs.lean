import FluentSql.Database
import FluentSql.Proofs.Cache.Backed
import FluentSql.Proofs.Query.Terminals

/-! Runs of reads, with changes of the cache driver and anything else between them. Whatever the
drivers hold at any time has come from the pool, under the same key. -/
namespace FluentSql

namespace Query

def Terminal.IsRead : {α : Type} → Terminal α → Prop
  | _, .create _ => False
  | _, .batchInsert _ => False
  | _, .bulkInsert _ => False
  | _, .update _ _ => False
  | _, .updateMap _ => False
  | _, .bulkUpdate _ _ => False
  | _, .increment _ _ => False
  | _, .decrement _ _ => False
  | _, .delete => False
  | _, _ => True

variable {σ α : Type} [Backend σ] [CacheBlind σ]

theorem keepsBacked_fetch (query : Query) (context : Context)
    (statement : Except Error Statement) :
    (query.fetch context statement : Task (Ledger σ) (List Row)).KeepsBacked :=
  (Task.keepsBacked_ofExcept statement).bind fun statement =>
    query.connection.keepsBacked_selectCached context statement query.ttl?

theorem keepsBacked_fetchScalar [FromValue α] (query : Query) (context : Context)
    (statement : Except Error Statement) :
    (query.fetchScalar context statement : Task (Ledger σ) α).KeepsBacked := by
  refine (keepsBacked_fetch query context statement).bind fun rows => ?_
  cases rows.head? with
  | some row => exact Task.keepsBacked_ofExcept (row.getAt 0)
  | none => exact fun _ backed => backed

theorem keepsBacked_get [FromRow α] (query : Query) (context : Context) :
    (query.get context : Task (Ledger σ) (List α)).KeepsBacked :=
  (keepsBacked_fetch query context query.toSql).bind fun _ => Task.keepsBacked_ofRow _

theorem keepsBacked_first [FromRow α] (query : Query) (context : Context) :
    (query.first context : Task (Ledger σ) (Option α)).KeepsBacked := by
  refine (keepsBacked_fetch query context query.firstStatement).bind fun rows => ?_
  cases rows.head? with
  | some row => exact (Task.keepsBacked_ofRow (fromRow row)).bind fun _ _ backed => backed
  | none => exact fun _ backed => backed

theorem keepsBacked_count (query : Query) (context : Context) :
    (query.count context : Task (Ledger σ) UInt64).KeepsBacked :=
  keepsBacked_fetchScalar query context query.countStatement

/-- Every read keeps the drivers backed; a page reads twice. -/
theorem Terminal.keepsBacked_run (terminal : Terminal α) (reads : terminal.IsRead) (query : Query)
    (context : Context) : (terminal.run query context : Task (Ledger σ) α).KeepsBacked := by
  cases terminal with
  | get _ => exact keepsBacked_get query context
  | first _ => exact keepsBacked_first query context
  | find _ id => exact keepsBacked_first (query.whereId id) context
  | pluck _ column =>
    exact (keepsBacked_fetch query context (query.pluckStatement column)).bind fun _ =>
      Task.keepsBacked_ofExcept _
  | count => exact keepsBacked_count query context
  | exists? => exact (keepsBacked_count query context).bind fun _ _ backed => backed
  | aggregate operation column =>
    exact keepsBacked_fetchScalar query context (query.aggregateStatement operation column)
  | paginate _ number perPage =>
    refine (keepsBacked_count query context).bind fun total => ?_
    dsimp only
    split
    · exact fun _ backed => backed
    · exact (keepsBacked_get _ context).bind fun _ _ backed => backed
  | _ => exact reads.elim

end Query

/-- One thing that happens to a database and the cache in front of it. A driver may lose what it
holds at any time. -/
inductive Move (σ : Type) : Type 1 where
  | read {α : Type} (terminal : Query.Terminal α) (reads : terminal.IsRead) (query : Query)
    (context : Context)
  | setCache (database : Database) (driver : DriverId)
  | clearCache (database : Database)
  | forget (driver : DriverId) (key : String)
  | elsewhere (change : World (Ledger σ) → World (Ledger σ))
    (away : ∀ world, Away world (change world))

namespace Move

variable {σ : Type} [Backend σ] [CacheBlind σ]

def run (world : World (Ledger σ)) : Move σ → World (Ledger σ)
  | .read terminal _ query context => (terminal.run query context world).2
  | .setCache database driver => (database.setCache driver world).2
  | .clearCache database => (database.clearCache world).2
  | .forget driver key => { world with cache := world.cache.forget driver key }
  | .elsewhere change _ => change world

def runAll (world : World (Ledger σ)) : List (Move σ) → World (Ledger σ)
  | [] => world
  | move :: rest => runAll (move.run world) rest

theorem backed_run {world : World (Ledger σ)} (backed : Backed world) (move : Move σ) :
    Backed (move.run world) := by
  cases move with
  | read terminal reads query context =>
    exact terminal.keepsBacked_run reads query context world backed
  | setCache database driver => exact ⟨backed.returned, backed.held⟩
  | clearCache database => exact ⟨backed.returned, backed.held⟩
  | forget driver key =>
    refine ⟨backed.returned, ?_⟩
    intro other name rows found
    exact backed.held other name rows (Cache.find?_of_find?_forget found)
  | elsewhere change away => exact backed.of_away (away world)

theorem backed_runAll {world : World (Ledger σ)} (backed : Backed world) (moves : List (Move σ)) :
    Backed (runAll world moves) := by
  induction moves generalizing world with
  | nil => exact backed
  | cons move rest ih => exact ih (backed_run backed move)

end Move

/-- Over every run that starts without entries, whatever a driver is set or holds was returned on
the pool by a statement of the same key that has been executed before. Each read in it goes through
the cache: a hit executes nothing, a miss executes the statement once and sets its rows exactly when
it is done, unless the context has fired before, and every other read executes without a driver. -/
theorem reads_go_through_the_cache {σ : Type} [Backend σ] [CacheBlind σ] :
    (∀ (world : World (Ledger σ)) (moves : List (Move σ)), world.cache = .empty →
      Backed (Move.runAll world moves)) ∧
    ∀ (connection : Connection) (context : Context) (statement : Statement)
      (ttl? : Option Duration) (world : World (Ledger σ)),
      connection.ReadThrough context statement ttl? world
        (connection.selectCached context statement ttl? world) := by
  constructor
  · intro world moves empty
    exact Move.backed_runAll (backed_of_empty empty) moves
  · intro connection context statement ttl? world
    exact connection.readThrough context statement ttl? world

/-- A world in which a driver is in use and a signal has fired. -/
def cancelled : World (Ledger Recorder) :=
  { World.start ⟨Recorder.empty, []⟩ with
    clock := ⟨0, [Signal.fresh.setAt 0]⟩
    cache := Cache.empty.activate 0 }

theorem reads_go_through_the_cache_remembered :
    Backed (Move.runAll (World.start ⟨Recorder.empty, []⟩ : World (Ledger Recorder))
      [.setCache ⟨.mySql⟩ 0,
        .read .count trivial ((Query.new ⟨.pool, .mySql⟩ "users").remember ⟨60⟩) .background,
        .forget 0 "users", .clearCache ⟨.mySql⟩]) ∧
    ∃ rows?, (Connection.selectCached ⟨.pool, .postgres⟩ .background
        ⟨"SELECT * FROM users WHERE id = ?", [.int 7]⟩ (some ⟨60⟩) cancelled).2.backend.executions =
      [⟨none, "SELECT * FROM users WHERE id = $1", [.int 7], rows?⟩] := by
  obtain ⟨backed, law⟩ := reads_go_through_the_cache (σ := Recorder)
  refine ⟨backed _ _ rfl, ?_⟩
  have through := law ⟨.pool, .postgres⟩ .background
    ⟨"SELECT * FROM users WHERE id = ?", [.int 7]⟩ (some ⟨60⟩) cancelled
  obtain ⟨ran, _⟩ := through.miss ⟨60⟩ 0 rfl rfl rfl rfl
  obtain ⟨rows?, executions, _⟩ := ran.executed rfl
  have placed : Dialect.rebind .postgres "SELECT * FROM users WHERE id = ?" =
      "SELECT * FROM users WHERE id = $1" := by decide +kernel
  refine ⟨rows?, ?_⟩
  rw [executions]
  simp only [placed]
  rfl

/-- A miss under a context that has fired before is not executed, so not every miss is. -/
theorem not_every_miss_is_executed :
    ¬ ∀ (connection : Connection) (context : Context) (statement : Statement) (ttl : Duration)
        (driver : DriverId) (world : World (Ledger Recorder)), connection.target = .pool →
      world.cache.driver? = some driver →
      world.cache.find? driver (cacheKey statement.sql statement.args) = none →
      ∃ execution, (connection.selectCached context statement (some ttl)
          world).2.backend.executions = world.backend.executions ++ [execution] := by
  intro claim
  obtain ⟨execution, executed⟩ := claim ⟨.pool, .mySql⟩ (.ofSignal 0) ⟨"SELECT 1", []⟩ ⟨1⟩ 0
    cancelled rfl rfl rfl
  have none : (Connection.selectCached ⟨.pool, .mySql⟩ (.ofSignal 0) ⟨"SELECT 1", []⟩ (some ⟨1⟩)
      cancelled).2.backend.executions = [] := by decide +kernel
  rw [none] at executed
  cases executed

end FluentSql
