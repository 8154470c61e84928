import FluentSql.Backend.Recorder
import FluentSql.Proofs.Backend.Journal

/-! A ledger of the statements that a backend has executed, with the rows that came back. It is kept
around any backend. -/
namespace FluentSql

/-- One execution of a statement, and its rows when it was a query that succeeded. -/
structure Execution where
  session? : Option SessionId
  sql : String
  args : List Value
  rows? : Option (List Row)
  deriving DecidableEq

def Ending.value? : Ending α → Option α
  | .done value => some value
  | _ => none

/-- A backend with the statements that it has executed. -/
structure Ledger (σ : Type) where
  backend : σ
  executions : List Execution

namespace Ledger

/-- The world as the backend without a ledger sees it. -/
def inner (world : World (Ledger σ)) : World σ where
  clock := world.clock
  guards := world.guards
  sessions := world.sessions
  cache := world.cache
  log := world.log
  backend := world.backend.backend

/-- The world after a call, with the executions that there have been. -/
def outer (executions : List Execution) (world : World σ) : World (Ledger σ) where
  clock := world.clock
  guards := world.guards
  sessions := world.sessions
  cache := world.cache
  log := world.log
  backend := ⟨world.backend, executions⟩

def entered (task : Task σ α) (added : Ending α → List Execution) : Task (Ledger σ) α :=
  fun world =>
    let (ending, after) := task (inner world)
    (ending, outer (world.backend.executions ++ added ending) after)

instance [Backend σ] : Backend (Ledger σ) where
  query session? sql args := entered (Backend.query session? sql args)
    fun ending => [⟨session?, sql, args, ending.value?⟩]
  execute session? sql args := entered (Backend.execute session? sql args)
    fun _ => [⟨session?, sql, args, none⟩]
  ping := entered Backend.ping fun _ => []
  begin := entered Backend.begin fun _ => []
  commit session := entered (Backend.commit session) fun _ => []
  rollback session := entered (Backend.rollback session) fun _ => []
  discard session := entered (Backend.discard session) fun _ => []

end Ledger

namespace Task

variable {σ α β : Type}

/-- A task that neither asks a cache nor changes one. -/
def LeavesCache (task : Task σ α) : Prop := ∀ world, (task world).2.cache = world.cache

theorem leavesCache_ofExcept (result : Except Error α) :
    (ofExcept result : Task σ α).LeavesCache := by
  cases result <;> exact fun _ => rfl

theorem leavesCache_onBackend (step : σ → α × σ) : (onBackend step).LeavesCache := fun _ => rfl

theorem leavesCache_read (part : World σ → α) : (read part).LeavesCache := fun _ => rfl

theorem leavesCache_wait (span : Duration) : (wait span : Task σ Unit).LeavesCache := by
  intro world
  rcases wait_cases span world with ⟨instant, run⟩ | ⟨depth, instant, error, _, run⟩
  · rw [run]
    rfl
  · rw [run]
    rfl

theorem LeavesCache.bind {task : Task σ α} {next : α → Task σ β} (leaves : task.LeavesCache)
    (rest : ∀ value, (next value).LeavesCache) : (task >>= next).LeavesCache := by
  intro world
  have first := leaves world
  rcases bind_cases task next world with ⟨value, after, run, whole⟩ | same
  · rw [run] at first
    rw [whole, rest value after, first]
  · rw [same, first]

theorem LeavesCache.attempt {task : Task σ α} (leaves : task.LeavesCache) :
    task.attempt.LeavesCache := by
  intro world
  rw [← leaves world]
  unfold Task.attempt
  cases task world with
  | mk ending after => cases ending <;> rfl

theorem LeavesCache.within {task : Task σ α} (leaves : task.LeavesCache) (context : Context) :
    (task.within context).LeavesCache := by
  intro world
  rcases world_within task context world with same | started
  · rw [same]
  · rw [started]
    exact leaves { world with guards := context :: world.guards }

end Task

/-- A backend whose queries have nothing to do with the cache in front of it. -/
class CacheBlind (σ : Type) [Backend σ] : Prop where
  query_leavesCache : ∀ session? sql args,
    (Backend.query session? sql args : Task σ (List Row)).LeavesCache

theorem Recorder.leavesCache_answer (session? : Option SessionId) (sql : String)
    (args : List Value) (take : Recorder → Except Error α × Recorder) :
    (answer session? sql args take).LeavesCache := by
  refine (Task.leavesCache_onBackend _).bind fun _ => ?_
  refine (Task.leavesCache_read _).bind fun delay => ?_
  refine (Task.leavesCache_wait delay).bind fun _ => ?_
  exact (Task.leavesCache_onBackend take).bind fun result => Task.leavesCache_ofExcept result

instance : CacheBlind Recorder where
  query_leavesCache session? sql args :=
    Recorder.leavesCache_answer session? sql args Recorder.takeRows

/-- A ledger does not touch the cache. -/
instance [Backend σ] [CacheBlind σ] : CacheBlind (Ledger σ) where
  query_leavesCache session? sql args world :=
    CacheBlind.query_leavesCache session? sql args (Ledger.inner world)

end FluentSql
