import FluentSql.Proofs.Transaction.Outcome

/-! A transaction around a body finishes its session once. It commits when the body has succeeded
before the context fires, and rolls back otherwise. -/
namespace FluentSql

/-- The session is finished: behind the statements of the body it is committed or rolled back, once,
as the outcome calls for, and the answer to that decides the result. -/
structure Settled (outcome : Outcome α) (session : SessionId) (calls : List BackendCall)
    (answer : Except Error Unit) [Backend σ] (result : Ending α × World (Journaled σ)) : Prop where
  once : ∃ sent, Body.Statements session sent ∧
    result.2.backend.calls = calls ++ sent ++ [outcome.closing session]
  asked : ∃ before after, (outcome.close session : Task (Journaled σ) Unit) before =
    (answered answer, after) ∧ result.2.backend = after.backend ∧
      result.2.backend.calls = before.backend.calls ++ [outcome.closing session]
  finished : session ∉ result.2.sessions
  result_eq : result.1 = outcome.result answer
  done_iff : ∀ value, result.1 = .done value ↔ outcome = .returned value ∧ answer = .ok ()

namespace Database

section Begin

variable {σ : Type} [Backend σ] {database : Database} {context : Context}

/-- A context that has fired already opens no session. -/
theorem begin_of_fault {world : World σ} {error : Error}
    (fault : context.fault? world.clock = some error) :
    database.begin context world = (.failed error, world) := by
  have refused :
      (Backend.begin : Task σ SessionId).within context world = (.failed error, world) := by
    simp only [Task.within, fault]
  exact Task.bind_of_failed refused _

/-- A transaction that is begun is open, on the session that the backend was asked for once. -/
theorem begin_eq_done {world opened : World (Journaled σ)} {transaction : Transaction}
    (begun : database.begin context world = (.done transaction, opened)) :
    transaction.session ∈ opened.sessions ∧ opened.guards = world.guards ∧
      opened.backend.calls = world.backend.calls ++ [.begin] := by
  cases fault : context.fault? world.clock with
  | some error =>
    rw [begin_of_fault fault] at begun
    cases begun
  | none =>
    unfold Database.begin at begun
    rw [Task.bind_apply] at begun
    unfold Task.within at begun
    rw [fault] at begun
    dsimp only at begun
    cases run : (Backend.begin : Task (Journaled σ) SessionId)
        { world with guards := context :: world.guards } with
    | mk ending after =>
      have calls : after.backend.calls = world.backend.calls ++ [.begin] := by
        have noted := congrArg (fun result => result.2.backend.calls) run
        exact noted.symm
      rw [run] at begun
      cases ending with
      | done session =>
        cases begun
        exact ⟨List.mem_append_right _ (List.mem_singleton.mpr rfl), rfl, calls⟩
      | overtaken depth error =>
        dsimp only at begun
        by_cases own : depth = world.guards.length
        · rw [if_pos own] at begun
          cases begun
        · rw [if_neg own] at begun
          cases begun
      | _ => cases begun

theorem begin_calls (database : Database) (context : Context) (world : World (Journaled σ)) :
    ∃ sent, (database.begin context world).2.backend.calls = world.backend.calls ++ sent ∧
      ∀ call ∈ sent, call = .begin := by
  have once : (Backend.begin : Task (Journaled σ) SessionId).Emits
      fun sent => ∀ call ∈ sent, call = .begin := by
    refine (Task.emits_noted .begin (Backend.begin : Task σ SessionId)).mono ?_
    rintro sent rfl call member
    exact List.mem_singleton.mp member
  have started := once.within (fun _ member => nomatch member) context
  have opened (session : SessionId) : (do
      Task.modify fun world => { world with sessions := world.sessions ++ [session] }
      pure (⟨session, database.dialect⟩ : Transaction) :
        Task (Journaled σ) Transaction).Silent := fun _ => rfl
  exact started.bind opened world

end Begin

section Settlement

variable {σ α : Type} [Backend σ] {database : Database} {context : Context}
  {transaction : Transaction}

/-- Behind its body a transaction does what the outcome of the body calls for. -/
theorem transaction_eq_finish {world opened after : World σ} {body : Transaction → Task σ α}
    {outcome : Outcome α} (begun : database.begin context world = (.done transaction, opened))
    (ran : (body transaction).within context opened = (outcome.ending, after)) :
    database.transaction context body world = outcome.finish transaction after := by
  unfold Database.transaction
  refine (Task.bind_of_done begun _).trans ?_
  dsimp only
  rw [ran]
  cases outcome <;> rfl

theorem transaction_of_cut {world opened after : World σ} {body : Transaction → Task σ α}
    {depth : Nat} {error : Error}
    (begun : database.begin context world = (.done transaction, opened))
    (ran : (body transaction).within context opened = (.overtaken depth error, after)) :
    (database.transaction context body world).1 = .overtaken depth error := by
  unfold Database.transaction
  refine (congrArg Prod.fst (Task.bind_of_done begun _)).trans ?_
  dsimp only
  rw [ran]

/-- Once the backend has answered the call that finishes the session, the session is settled. -/
theorem settled_of_answered (outcome : Outcome α) {after closed : World (Journaled σ)}
    (isOpen : transaction.session ∈ after.sessions) {calls sent : List BackendCall}
    (statements : Body.Statements transaction.session sent)
    (sentBefore : after.backend.calls = calls ++ sent) {answer : Except Error Unit}
    (run : (outcome.close transaction.session : Task (Journaled σ) Unit)
      (after.released transaction.session) = (answered answer, closed))
    (sessions : closed.sessions = (after.released transaction.session).sessions) :
    Settled outcome transaction.session calls answer (outcome.finish transaction after) := by
  obtain ⟨result, backend, finished⟩ := outcome.finish_of_answered isOpen run
  obtain ⟨last, lastCalls, rfl⟩ :=
    outcome.emits_close transaction.session (after.released transaction.session)
  rw [run, ← backend] at lastCalls
  constructor
  · refine ⟨sent, statements, ?_⟩
    rw [lastCalls, ← sentBefore]
    rfl
  · exact ⟨_, closed, run, backend, lastCalls⟩
  · rw [finished, sessions]
    simp [World.released]
  · exact result
  · intro value
    rw [result]
    exact outcome.result_eq_done_iff answer value

/-- From the world in which the session is open, the body and what finishes the transaction. -/
theorem settled_or_cut [LawfulBackend σ] {world opened : World (Journaled σ)}
    (begun : database.begin context world = (.done transaction, opened))
    (isOpen : transaction.session ∈ opened.sessions) (body : Body α) :
    (∃ outcome answer, Outcome.of? context (body.run transaction) opened = some outcome ∧
      (∀ error, outcome = .fired error → context.Ends error) ∧
      Settled outcome transaction.session opened.backend.calls answer
        (database.transaction context (fun transaction => body.run transaction) world)) ∨
    ∃ depth error,
      (database.transaction context (fun transaction => body.run transaction) world).1 =
        .overtaken depth error ∧ depth < opened.guards.length := by
  have keeps : (body.run transaction : Task (Journaled σ) α).Keeps := body.keeps_run transaction
  obtain ⟨sameGuards, sameSessions, _⟩ := (keeps.within context) opened
  obtain ⟨sent, calls, statements⟩ :=
    ((body.emits_run transaction).within (Body.statements_nil _) context) opened
  cases ran : (body.run transaction : Task (Journaled σ) α).within context opened with
  | mk ending after =>
    rw [ran] at sameGuards sameSessions calls
    rcases Outcome.of_or_cut keeps context opened with
      ⟨outcome, found, ends, fires⟩ | ⟨depth, error, cut, inside⟩
    · rw [ran] at ends
      subst ends
      rw [transaction_eq_finish begun ran]
      have stillOpen : transaction.session ∈ after.sessions := sameSessions ▸ isOpen
      obtain ⟨ending, closed, run, sessions, answers⟩ :=
        outcome.close_cases transaction.session (after.released transaction.session)
      rcases answers with ⟨answer, rfl⟩ | ⟨depth, error, rfl, inside⟩
      · left
        have settled := settled_of_answered outcome stillOpen statements calls run sessions
        exact ⟨outcome, answer, found, fires, settled⟩
      · right
        have whole := outcome.finish_of_overtaken stillOpen run
        refine ⟨depth, error, congrArg Prod.fst whole, ?_⟩
        rw [← sameGuards]
        exact inside
    · right
      rw [ran] at cut
      subst cut
      exact ⟨depth, error, transaction_of_cut begun ran, inside⟩

end Settlement

/-- Whatever its body comes to, a transaction that has a session finishes it once: with a commit
exactly when the body has succeeded before the context fires, and otherwise with a rollback that
leaves the error or the panic as it is. Without a session the body does not run. Only a context
around the whole call can cut it off. -/
theorem transaction_settles_once {σ α : Type} [Backend σ] [LawfulBackend σ] (database : Database)
    (context : Context) (body : Body α) (world : World (Journaled σ)) :
    (∀ error, context.fault? world.clock = some error →
      database.begin context world = (.failed error, world)) ∧
    (∀ error after, database.begin context world = (.failed error, after) →
      (∀ other : Transaction → Task (Journaled σ) α,
        database.transaction context other world = (.failed error, after)) ∧
      ∃ sent, after.backend.calls = world.backend.calls ++ sent ∧ ∀ call ∈ sent, call = .begin) ∧
    ∀ transaction opened, database.begin context world = (.done transaction, opened) →
      (∃ outcome answer, Outcome.of? context (body.run transaction) opened = some outcome ∧
        (∀ error, outcome = .fired error → context.Ends error) ∧
        Settled outcome transaction.session (world.backend.calls ++ [.begin]) answer
          (database.transaction context (fun transaction => body.run transaction) world)) ∨
      ∃ depth error,
        (database.transaction context (fun transaction => body.run transaction) world).1 =
          .overtaken depth error ∧ depth < world.guards.length := by
  refine ⟨fun error fault => begin_of_fault fault, ?_, ?_⟩
  · intro error after begun
    refine ⟨fun other => Task.bind_of_failed begun _, ?_⟩
    have calls := begin_calls database context world
    rwa [begun] at calls
  · intro transaction opened begun
    obtain ⟨isOpen, guards, calls⟩ := begin_eq_done begun
    rw [← guards, ← calls]
    exact settled_or_cut begun isOpen body

/-- A body that deletes and then refuses. -/
def refusal : Body Unit :=
  .exec .background "DELETE FROM users" [] fun _ => .err (.backend "refused")

/-- A world whose backend will fail to roll back, where `calls` have been made. -/
def failingRollback (sessions : List SessionId) (calls : List BackendCall) :
    World (Journaled Recorder) :=
  let recorder : Recorder :=
    { Recorder.empty with failures := [(.rollback, "gone")], nextSession := sessions.length }
  { World.start ⟨recorder, calls⟩ with sessions := sessions }

theorem transaction_settles_once_failing :
    ∃ answer, Settled (.refused (.backend "refused")) 0 [.begin] answer
      ((Database.mk .mySql).transaction .background
        (fun transaction => refusal.run transaction) (failingRollback [] [])) := by
  obtain ⟨_, _, behind⟩ :=
    transaction_settles_once (Database.mk .mySql) .background refusal (failingRollback [] [])
  have begun : (Database.mk .mySql).begin .background (failingRollback [] []) =
      (.done ⟨0, .mySql⟩, failingRollback [0] [.begin]) := rfl
  have refused : Outcome.of? .background
      (refusal.run ⟨0, .mySql⟩ : Task (Journaled Recorder) Unit) (failingRollback [0] [.begin]) =
        some (.refused (.backend "refused")) := rfl
  rcases behind _ _ begun with ⟨outcome, answer, found, _, settled⟩ | ⟨_, _, _, below⟩
  · have same : outcome = .refused (.backend "refused") :=
      Option.some.inj (found.symm.trans refused)
    rw [same] at settled
    have calls : (failingRollback [] []).backend.calls ++ [.begin] = [BackendCall.begin] := rfl
    rw [calls] at settled
    exact ⟨answer, settled⟩
  · exact absurd below (Nat.not_lt_zero _)

end Database
end FluentSql
