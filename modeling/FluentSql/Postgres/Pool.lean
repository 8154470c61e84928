import FluentSql.Error
import FluentSql.Postgres.ConnectionString

/-! The connections of a pool: those that are idle, and how many there are in all. -/
namespace FluentSql.Postgres

/-- Connections are numbered from one in the order in which they are opened. -/
abbrev ConnectionId := Nat

structure ConnectionPool where
  maxSize : Nat
  /-- Numbers given out so far, also for connections that were refused. -/
  opened : Nat
  /-- Connections that belong to the pool, idle or in use. -/
  size : Nat
  /-- Idle connections, the one returned first in front. -/
  idle : List ConnectionId
  deriving DecidableEq

namespace ConnectionPool

def defaultSize : Nat := 16

def empty (maxSize : Nat) : ConnectionPool := ⟨maxSize, 0, 0, []⟩

/-- A pool for the server that a connection string names. Nothing is opened yet. -/
def ofUrl (url : String) (maxSize : Nat) : Except Error ConnectionPool :=
  if ConnectionString.isValid url then .ok (empty maxSize) else .error .invalidUrl

/-- The pool as it is shown to a developer. -/
def description (pool : ConnectionPool) : String :=
  "PgPool \x7b size: " ++ Text.natText pool.size ++ ", available: " ++
    Text.natText pool.idle.length ++ " \x7d"

/-- What a pool does for a caller that needs a connection. -/
inductive Supply where
  | reuse (connection : ConnectionId)
  | openNew (connection : ConnectionId)
  | exhausted
  deriving DecidableEq

def supply (pool : ConnectionPool) : Supply :=
  match pool.idle with
  | connection :: _ => .reuse connection
  | [] => if pool.size < pool.maxSize then .openNew (pool.opened + 1) else .exhausted

theorem idle_of_supply_reuse {pool : ConnectionPool} {connection : ConnectionId}
    (reused : pool.supply = .reuse connection) : pool.idle = connection :: pool.idle.tail := by
  unfold supply at reused
  split at reused
  · rename_i first rest idle
    cases reused
    rw [idle, List.tail_cons]
  · split at reused
    · cases reused
    · cases reused

theorem number_of_supply_openNew {pool : ConnectionPool} {connection : ConnectionId}
    (opening : pool.supply = .openNew connection) : connection = pool.opened + 1 := by
  unfold supply at opening
  split at opening
  · cases opening
  · split at opening
    · cases opening
      rfl
    · cases opening

/-- An idle connection is in use from now on. -/
def lend (pool : ConnectionPool) : ConnectionPool := { pool with idle := pool.idle.tail }

def addOpened (pool : ConnectionPool) : ConnectionPool :=
  { pool with opened := pool.opened + 1, size := pool.size + 1 }

/-- A connection that is refused uses up its number. -/
def addRefused (pool : ConnectionPool) : ConnectionPool := { pool with opened := pool.opened + 1 }

def release (pool : ConnectionPool) (connection : ConnectionId) : ConnectionPool :=
  { pool with idle := pool.idle ++ [connection] }

/-- A connection in use that leaves the pool makes room for another. -/
def detach (pool : ConnectionPool) : ConnectionPool := { pool with size := pool.size - 1 }

theorem release_ne_detach (pool : ConnectionPool) (connection : ConnectionId) :
    pool.release connection ≠ pool.detach := by
  intro same
  have idle : pool.idle ++ [connection] = pool.idle := congrArg ConnectionPool.idle same
  exact List.cons_ne_nil _ _ (List.append_right_eq_self.mp idle)

end ConnectionPool
end FluentSql.Postgres
