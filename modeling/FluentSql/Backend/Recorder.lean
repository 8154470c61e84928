import FluentSql.Backend

/-! A backend that answers from queues and keeps a record of every call. It interprets no
statement. -/
namespace FluentSql

/-- A statement that reached the backend, and the transaction it ran in. -/
structure RecordedCall where
  sql : String
  args : List Value
  session? : Option SessionId
  deriving DecidableEq

/-- Calls other than statements, which can be made to fail. -/
inductive PoolCall where
  | ping
  | begin
  | commit
  | rollback
  deriving DecidableEq

structure Recorder where
  rows : List (Except String (List Row))
  results : List (Except String WriteResult)
  /-- How long every statement takes. -/
  delay : Duration
  /-- The message with which the next call of a kind fails. -/
  failures : List (PoolCall × String)
  calls : List RecordedCall
  /-- Statements of the pool and of committed transactions, in the order in which they took hold. -/
  visible : List String
  /-- Statements of open transactions. -/
  pending : List (SessionId × String)
  nextSession : SessionId
  commits : Nat
  rollbacks : Nat
  discarded : Nat

namespace Recorder

def empty : Recorder := ⟨[], [], ⟨0⟩, [], [], [], [], 0, 0, 0, 0⟩

/-- The next entry of a queue; an empty queue answers with a default. -/
def next (fallback : α) : List (Except String α) → Except Error α × List (Except String α)
  | [] => (.ok fallback, [])
  | .ok value :: rest => (.ok value, rest)
  | .error message :: rest => (.error (.backend message), rest)

def takeRows (recorder : Recorder) : Except Error (List Row) × Recorder :=
  let (result, rest) := next [] recorder.rows
  (result, { recorder with rows := rest })

def takeResult (recorder : Recorder) : Except Error WriteResult × Recorder :=
  let (result, rest) := next ⟨1, none⟩ recorder.results
  (result, { recorder with results := rest })

def record (recorder : Recorder) (call : RecordedCall) : Recorder :=
  { recorder with calls := recorder.calls ++ [call] }

/-- A failure is used up by the call that it fails. -/
def takeFailure (recorder : Recorder) (call : PoolCall) : Option String × Recorder :=
  match recorder.failures.lookup call with
  | some message =>
    (some message, { recorder with failures := recorder.failures.filter (·.1 ≠ call) })
  | none => (none, recorder)

/-- What a statement does shows at once on the pool, and at commit in a transaction. -/
def takeHold (recorder : Recorder) (session? : Option SessionId) (sql : String) : Recorder :=
  match session? with
  | none => { recorder with visible := recorder.visible ++ [sql] }
  | some session => { recorder with pending := recorder.pending ++ [(session, sql)] }

def pendingOf (recorder : Recorder) (session : SessionId) : List String :=
  (recorder.pending.filter (·.1 = session)).map Prod.snd

def forget (recorder : Recorder) (session : SessionId) : Recorder :=
  { recorder with pending := recorder.pending.filter (·.1 ≠ session) }

def committed (recorder : Recorder) (session : SessionId) : Recorder :=
  { recorder.forget session with
    visible := recorder.visible ++ recorder.pendingOf session
    commits := recorder.commits + 1 }

def rolledBack (recorder : Recorder) (session : SessionId) : Recorder :=
  { recorder.forget session with rollbacks := recorder.rollbacks + 1 }

def lost (recorder : Recorder) (session : SessionId) : Recorder :=
  { recorder.forget session with discarded := recorder.discarded + 1 }

/-- Record a statement, let its time pass and take its answer. A statement that is ended while its
time passes takes none. -/
def answer (session? : Option SessionId) (sql : String) (args : List Value)
    (take : Recorder → Except Error α × Recorder) : Task Recorder α := do
  Task.onBackend fun recorder => ((), recorder.record ⟨sql, args, session?⟩)
  Task.wait (← Task.read fun world => world.backend.delay)
  Task.ofExcept (← Task.onBackend take)

/-- Make a call that may have been told to fail. -/
def attempt (call : PoolCall) : Task Recorder (Option Error) := do
  pure ((← Task.onBackend fun recorder => recorder.takeFailure call).map .backend)

def finish (call : PoolCall) (session : SessionId)
    (close : Recorder → SessionId → Recorder) : Task Recorder Unit := do
  match ← attempt call with
  | none => Task.onBackend fun recorder => ((), close recorder session)
  | some error =>
    Task.onBackend fun recorder => ((), recorder.lost session)
    Task.fail error

instance : Backend Recorder where
  query session? sql args := answer session? sql args takeRows
  execute session? sql args := do
    let result ← answer session? sql args takeResult
    Task.onBackend fun recorder => (result, recorder.takeHold session? sql)
  ping := do
    match ← attempt .ping with
    | none => pure ()
    | some error => Task.fail error
  begin := do
    match ← attempt .begin with
    | none => Task.onBackend fun recorder =>
      (recorder.nextSession, { recorder with nextSession := recorder.nextSession + 1 })
    | some error => Task.fail error
  commit session := finish .commit session committed
  rollback session := finish .rollback session rolledBack
  discard session := Task.onBackend fun recorder => ((), recorder.lost session)

end Recorder
end FluentSql
