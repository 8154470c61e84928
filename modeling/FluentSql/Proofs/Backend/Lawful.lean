import FluentSql.Backend.Recorder
import FluentSql.Proofs.Backend.Journal
import FluentSql.Proofs.Conduct

/-! Backends that answer: every statement ends and so does the end of a transaction, with success or
with an error. -/
namespace FluentSql

/-- What is asked of a backend. A statement may succeed, fail or panic, a commit or a rollback may
succeed or fail. -/
class LawfulBackend (σ : Type) [Backend σ] : Prop where
  query_keeps : ∀ session? sql args, (Backend.query session? sql args : Task σ (List Row)).Keeps
  execute_keeps : ∀ session? sql args,
    (Backend.execute session? sql args : Task σ WriteResult).Keeps
  commit_keeps : ∀ session, (Backend.commit session : Task σ Unit).Keeps
  rollback_keeps : ∀ session, (Backend.rollback session : Task σ Unit).Keeps
  commit_calm : ∀ session (world : World σ) message,
    ((Backend.commit session : Task σ Unit) world).1 ≠ .panicked message
  rollback_calm : ∀ session (world : World σ) message,
    ((Backend.rollback session : Task σ Unit) world).1 ≠ .panicked message

namespace Recorder

open FluentSql.Task

theorem keeps_answer (session? : Option SessionId) (sql : String) (args : List Value)
    (take : Recorder → Except Error α × Recorder) : (answer session? sql args take).Keeps := by
  refine (keeps_onBackend _).bind fun _ => ?_
  refine (keeps_read _).bind fun delay => ?_
  refine (keeps_wait delay).bind fun _ => ?_
  exact (keeps_onBackend take).bind fun result => keeps_ofExcept result

theorem keeps_finish (call : PoolCall) (session : SessionId)
    (close : Recorder → SessionId → Recorder) : (finish call session close).Keeps := by
  have asked : (attempt call).Keeps := (keeps_onBackend _).bind fun _ => keeps_pure _
  refine asked.bind ?_
  intro failure?
  cases failure? with
  | none => exact keeps_onBackend _
  | some error => exact (keeps_onBackend _).bind fun _ => keeps_fail error

theorem finish_ne_panicked (call : PoolCall) (session : SessionId)
    (close : Recorder → SessionId → Recorder) (world : World Recorder) (message : String) :
    (finish call session close world).1 ≠ .panicked message := by
  have asked : attempt call world = (.done ((world.backend.takeFailure call).1.map .backend),
      { world with backend := (world.backend.takeFailure call).2 }) := rfl
  unfold finish
  rw [bind_of_done asked]
  cases (world.backend.takeFailure call).1 with
  | none =>
    intro same
    cases same
  | some failure =>
    intro same
    cases same

instance : LawfulBackend Recorder where
  query_keeps session? sql args := keeps_answer session? sql args takeRows
  execute_keeps session? sql args :=
    (keeps_answer session? sql args takeResult).bind fun _ => keeps_onBackend _
  commit_keeps session := keeps_finish .commit session committed
  rollback_keeps session := keeps_finish .rollback session rolledBack
  commit_calm session := finish_ne_panicked .commit session committed
  rollback_calm session := finish_ne_panicked .rollback session rolledBack

end Recorder

theorem Task.keeps_noted {task : Task σ α} (keeps : task.Keeps) (call : BackendCall) :
    (Journaled.noted call task).Keeps := by
  intro world
  obtain ⟨guards, sessions, proper⟩ := keeps (Journaled.inner world)
  exact ⟨guards, sessions, proper⟩

/-- A journal does not change how a backend answers. -/
instance [Backend σ] [LawfulBackend σ] : LawfulBackend (Journaled σ) where
  query_keeps session? sql args := Task.keeps_noted (LawfulBackend.query_keeps session? sql args) _
  execute_keeps session? sql args :=
    Task.keeps_noted (LawfulBackend.execute_keeps session? sql args) _
  commit_keeps session := Task.keeps_noted (LawfulBackend.commit_keeps session) _
  rollback_keeps session := Task.keeps_noted (LawfulBackend.rollback_keeps session) _
  commit_calm session world :=
    LawfulBackend.commit_calm session (Journaled.inner world)
  rollback_calm session world :=
    LawfulBackend.rollback_calm session (Journaled.inner world)

namespace Connection

variable {σ : Type}

theorem keeps_executor (connection : Connection) :
    (connection.executor : Task σ (Option SessionId)).Keeps := by
  intro world
  rcases executor_cases connection world with found | ⟨error, refused⟩
  · rw [found]
    exact ⟨rfl, rfl, trivial⟩
  · rw [refused]
    exact ⟨rfl, rfl, trivial⟩

theorem keeps_dispatch (connection : Connection) (context : Context) (sql : String)
    (args : List Value) (operation : Option SessionId → String → List Value → Task σ α)
    (keeps : ∀ session? sql args, (operation session? sql args).Keeps) :
    (connection.dispatch context sql args operation).Keeps := by
  refine (keeps_executor connection).bind fun session? => ?_
  have run := (keeps session? (connection.dialect.rebind sql) args).within context
  refine run.attempt.bind fun result => ?_
  exact (Task.keeps_report _).bind fun _ => Task.keeps_ofExcept result

variable [Backend σ] [LawfulBackend σ]

theorem keeps_select (connection : Connection) (context : Context) (sql : String)
    (args : List Value) : (connection.select context sql args : Task σ (List Row)).Keeps :=
  keeps_dispatch connection context sql args Backend.query LawfulBackend.query_keeps

theorem keeps_exec (connection : Connection) (context : Context) (sql : String)
    (args : List Value) : (connection.exec context sql args : Task σ WriteResult).Keeps :=
  keeps_dispatch connection context sql args Backend.execute LawfulBackend.execute_keeps

end Connection
end FluentSql
