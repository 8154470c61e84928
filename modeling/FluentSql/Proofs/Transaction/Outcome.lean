import FluentSql.Database
import FluentSql.Proofs.Transaction.Body

/-! Transactions around a body: whatever the body comes to, its session is finished once, by the
commit or the rollback that the outcome calls for. -/
namespace FluentSql

/-- What a body under a context comes to. -/
inductive Outcome (α : Type) where
  | returned (value : α)
  | refused (error : Error)
  | panicked (message : String)
  /-- The context has fired before the body ended. -/
  | fired (error : Error)

namespace Outcome

variable {σ α : Type}

/-- The outcome of a body that is started in a world, none where a context around the whole call
ends it. -/
def of? (context : Context) (body : Task σ α) (world : World σ) : Option (Outcome α) :=
  match context.fault? world.clock with
  | some error => some (.fired error)
  | none =>
    match (body { world with guards := context :: world.guards }).1 with
    | .done value => some (.returned value)
    | .failed error => some (.refused error)
    | .panicked message => some (.panicked message)
    | .overtaken depth error => if depth = world.guards.length then some (.fired error) else none
    | .stuck => none

/-- How the call with the body ends under its context. -/
def ending : Outcome α → Ending α
  | .returned value => .done value
  | .refused error | .fired error => .failed error
  | .panicked message => .panicked message

/-- The call that finishes the session. -/
def closing (session : SessionId) : Outcome α → BackendCall
  | .returned _ => .commit session
  | _ => .rollback session

def close [Backend σ] (session : SessionId) : Outcome α → Task σ Unit
  | .returned _ => Backend.commit session
  | _ => Backend.rollback session

/-- What the caller of a transaction gets, by the answer of the commit or the rollback. Only a
failed commit matters. -/
def result : Outcome α → Except Error Unit → Ending α
  | .returned value, .ok () => .done value
  | .returned _, .error failure => .failed failure
  | .refused error, _ | .fired error, _ => .failed error
  | .panicked message, _ => .panicked message

theorem result_eq_done_iff (outcome : Outcome α) (answer : Except Error Unit) (value : α) :
    outcome.result answer = .done value ↔ outcome = .returned value ∧ answer = .ok () := by
  cases outcome with
  | returned held =>
    cases answer with
    | ok _ => simp [result]
    | error failure => simp [result]
  | refused error => simp [result]
  | panicked message => simp [result]
  | fired error => simp [result]

/-- Under its context a body comes to an outcome, or a context around the whole call ends it. -/
theorem of_or_cut {body : Task σ α} (keeps : body.Keeps) (context : Context) (world : World σ) :
    (∃ outcome, of? context body world = some outcome ∧
      (body.within context world).1 = outcome.ending ∧
      ∀ error, outcome = .fired error → context.Ends error) ∨
    ∃ depth error, (body.within context world).1 = .overtaken depth error ∧
      depth < world.guards.length := by
  unfold of? Task.within
  cases fault : context.fault? world.clock with
  | some error =>
    left
    refine ⟨.fired error, rfl, rfl, ?_⟩
    intro other same
    cases same
    exact Context.ends_of_fault fault
  | none =>
    have proper := (keeps { world with guards := context :: world.guards }).proper
    cases run : body { world with guards := context :: world.guards } with
    | mk ending after =>
      rw [run] at proper
      cases ending with
      | done value => exact Or.inl ⟨.returned value, rfl, rfl, fun _ same => nomatch same⟩
      | failed error => exact Or.inl ⟨.refused error, rfl, rfl, fun _ same => nomatch same⟩
      | panicked message => exact Or.inl ⟨.panicked message, rfl, rfl, fun _ same => nomatch same⟩
      | stuck => exact absurd proper id
      | overtaken depth error =>
        rcases proper.innermost_or_outer with ⟨own, ends⟩ | ⟨other, outer⟩
        · left
          refine ⟨.fired error, if_pos own, ?_, ?_⟩
          · dsimp only
            rw [if_pos own]
            rfl
          · intro held same
            cases same
            exact ends
        · right
          refine ⟨depth, error, ?_, outer.depth_lt⟩
          dsimp only
          rw [if_neg other]

/-- What the rest of a transaction does with an outcome. -/
def finish [Backend σ] (transaction : Transaction) : Outcome α → Task σ α
  | .returned value => do
    transaction.commit
    pure value
  | .refused error | .fired error => do
    match ← transaction.rollback.attempt with
    | .ok () => pure ()
    | .error failure => Task.report (.rollbackFailed failure.message)
    Task.fail error
  | .panicked message => do
    let _ ← transaction.rollback.attempt
    Task.panic message

end Outcome

/-- The answer of a call that gives back nothing. -/
def answered : Except Error Unit → Ending Unit
  | .ok () => .done ()
  | .error error => .failed error

/-- The world once a session has been taken out of its transaction. -/
def World.released (world : World σ) (session : SessionId) : World σ :=
  { world with sessions := world.sessions.filter (· ≠ session) }

theorem attempt_of_answered {task : Task σ Unit} {world after : World σ}
    {answer : Except Error Unit} (run : task world = (answered answer, after)) :
    task.attempt world = (.done answer, after) := by
  cases answer with
  | ok _ => exact Task.attempt_of_done run
  | error failure => exact Task.attempt_of_failed run

namespace Transaction

variable {σ : Type} {transaction : Transaction} {world : World σ}

theorem takeSession_of_open (isOpen : transaction.session ∈ world.sessions) :
    transaction.takeSession world =
      (.done transaction.session, world.released transaction.session) :=
  if_pos isOpen

variable [Backend σ]

theorem commit_of_open (isOpen : transaction.session ∈ world.sessions) :
    transaction.commit world =
      (Backend.commit transaction.session : Task σ Unit) (world.released transaction.session) :=
  Task.bind_of_done (takeSession_of_open isOpen) _

theorem rollback_of_open (isOpen : transaction.session ∈ world.sessions) :
    transaction.rollback world =
      (Backend.rollback transaction.session : Task σ Unit) (world.released transaction.session) :=
  Task.bind_of_done (takeSession_of_open isOpen) _

end Transaction

namespace Outcome

variable {σ α : Type} [Backend σ]

/-- The backend answers the call that finishes a session, or a context around the call ends it. -/
theorem close_cases [LawfulBackend σ] (outcome : Outcome α) (session : SessionId)
    (world : World σ) :
    ∃ ending after, (outcome.close session : Task σ Unit) world = (ending, after) ∧
      after.sessions = world.sessions ∧
      ((∃ answer, ending = answered answer) ∨
        ∃ depth error, ending = .overtaken depth error ∧ depth < world.guards.length) := by
  have keeps : (outcome.close session : Task σ Unit).Keeps := by
    cases outcome with
    | returned value => exact LawfulBackend.commit_keeps session
    | _ => exact LawfulBackend.rollback_keeps session
  have calm : ∀ message, ((outcome.close session : Task σ Unit) world).1 ≠ .panicked message := by
    cases outcome with
    | returned value => exact LawfulBackend.commit_calm session world
    | _ => exact LawfulBackend.rollback_calm session world
  obtain ⟨_, sessions, proper⟩ := keeps world
  cases run : (outcome.close session : Task σ Unit) world with
  | mk ending after =>
    rw [run] at sessions proper calm
    refine ⟨ending, after, rfl, sessions, ?_⟩
    cases ending with
    | done value => exact Or.inl ⟨.ok (), rfl⟩
    | failed error => exact Or.inl ⟨.error error, rfl⟩
    | overtaken depth error =>
      exact Or.inr ⟨depth, error, rfl, Guarded.depth_lt proper⟩
    | panicked message => exact absurd rfl (calm message)
    | stuck => exact absurd proper id

theorem emits_close (outcome : Outcome α) (session : SessionId) :
    (outcome.close session : Task (Journaled σ) Unit).Emits (· = [outcome.closing session]) := by
  cases outcome <;> exact Task.emits_noted _ _

/-- The answer to the commit or the rollback decides the result as the outcome says. -/
theorem finish_of_answered (outcome : Outcome α) {transaction : Transaction} {world after : World σ}
    (isOpen : transaction.session ∈ world.sessions) {answer : Except Error Unit}
    (closed : (outcome.close transaction.session : Task σ Unit)
      (world.released transaction.session) = (answered answer, after)) :
    (outcome.finish transaction world).1 = outcome.result answer ∧
      (outcome.finish transaction world).2.backend = after.backend ∧
      (outcome.finish transaction world).2.sessions = after.sessions := by
  cases outcome with
  | returned value =>
    have committed := (Transaction.commit_of_open isOpen).trans closed
    cases answer with
    | ok _ =>
      rw [finish, Task.bind_of_done committed]
      exact ⟨rfl, rfl, rfl⟩
    | error failure =>
      rw [finish, Task.bind_of_failed committed]
      exact ⟨rfl, rfl, rfl⟩
  | refused error | fired error =>
    have rolledBack := attempt_of_answered ((Transaction.rollback_of_open isOpen).trans closed)
    rw [finish, Task.bind_of_done rolledBack]
    cases answer with
    | ok _ => exact ⟨rfl, rfl, rfl⟩
    | error failure => exact ⟨rfl, rfl, rfl⟩
  | panicked message =>
    have rolledBack := attempt_of_answered ((Transaction.rollback_of_open isOpen).trans closed)
    rw [finish, Task.bind_of_done rolledBack]
    exact ⟨rfl, rfl, rfl⟩

theorem finish_of_overtaken (outcome : Outcome α) {transaction : Transaction}
    {world after : World σ} (isOpen : transaction.session ∈ world.sessions) {depth : Nat}
    {error : Error} (closed : (outcome.close transaction.session : Task σ Unit)
      (world.released transaction.session) = (.overtaken depth error, after)) :
    outcome.finish transaction world = (.overtaken depth error, after) := by
  cases outcome with
  | returned value =>
    exact Task.bind_of_overtaken ((Transaction.commit_of_open isOpen).trans closed) _
  | refused reason | fired reason =>
    have cut := Task.attempt_of_overtaken ((Transaction.rollback_of_open isOpen).trans closed)
    exact Task.bind_of_overtaken cut _
  | panicked message =>
    have cut := Task.attempt_of_overtaken ((Transaction.rollback_of_open isOpen).trans closed)
    exact Task.bind_of_overtaken cut _

end Outcome
end FluentSql
