import FluentSql.Execution
import FluentSql.Proofs.Task

/-! A journal of the calls that reach a backend. It is kept around any backend, and what a task
sends can be read off it. Statements run one after another reach the backend in their order: those
up to one that fails, or all. -/
namespace FluentSql

/-- One call on a backend. -/
inductive BackendCall where
  | statement (session? : Option SessionId) (sql : String) (args : List Value)
  | ping
  | begin
  | commit (session : SessionId)
  | rollback (session : SessionId)
  | discard (session : SessionId)
  deriving DecidableEq

/-- A backend with the calls that have reached it. -/
structure Journaled (σ : Type) where
  backend : σ
  calls : List BackendCall

namespace Journaled

/-- The world as the backend without a journal sees it. -/
def inner (world : World (Journaled σ)) : World σ where
  clock := world.clock
  guards := world.guards
  sessions := world.sessions
  cache := world.cache
  log := world.log
  backend := world.backend.backend

/-- The world after a call, with the calls that have been made. -/
def outer (calls : List BackendCall) (world : World σ) : World (Journaled σ) where
  clock := world.clock
  guards := world.guards
  sessions := world.sessions
  cache := world.cache
  log := world.log
  backend := ⟨world.backend, calls⟩

def noted (call : BackendCall) (task : Task σ α) : Task (Journaled σ) α := fun world =>
  let (ending, after) := task (inner world)
  (ending, outer (world.backend.calls ++ [call]) after)

instance [Backend σ] : Backend (Journaled σ) where
  query session? sql args := noted (.statement session? sql args) (Backend.query session? sql args)
  execute session? sql args :=
    noted (.statement session? sql args) (Backend.execute session? sql args)
  ping := noted .ping Backend.ping
  begin := noted .begin Backend.begin
  commit session := noted (.commit session) (Backend.commit session)
  rollback session := noted (.rollback session) (Backend.rollback session)
  discard session := noted (.discard session) (Backend.discard session)

end Journaled

namespace Task

variable {σ α β : Type} {sends more : List BackendCall → Prop}

/-- Whatever the world and however the task ends, the calls that it makes are as they should be. -/
def Emits (task : Task (Journaled σ) α) (sends : List BackendCall → Prop) : Prop :=
  ∀ world, ∃ sent, (task world).2.backend.calls = world.backend.calls ++ sent ∧ sends sent

/-- A task that makes no calls. -/
def Silent (task : Task (Journaled σ) α) : Prop :=
  ∀ world, (task world).2.backend.calls = world.backend.calls

theorem silent_pure (value : α) : Silent (pure value : Task (Journaled σ) α) := fun _ => rfl

theorem silent_fail (error : Error) : Silent (fail error : Task (Journaled σ) α) := fun _ => rfl

theorem silent_panic (message : String) : Silent (panic message : Task (Journaled σ) α) :=
  fun _ => rfl

theorem silent_ofExcept (result : Except Error α) :
    Silent (ofExcept result : Task (Journaled σ) α) := by
  cases result <;> exact fun _ => rfl

theorem silent_report (event : LogEvent) : Silent (report event : Task (Journaled σ) Unit) :=
  fun _ => rfl

theorem Silent.emits {task : Task (Journaled σ) α} (silent : task.Silent) (none : sends []) :
    task.Emits sends := by
  intro world
  exact ⟨[], by rw [silent world, List.append_nil], none⟩

theorem Emits.mono {task : Task (Journaled σ) α} (emits : task.Emits sends)
    (weaker : ∀ sent, sends sent → more sent) : task.Emits more := by
  intro world
  obtain ⟨sent, calls, allowed⟩ := emits world
  exact ⟨sent, calls, weaker sent allowed⟩

theorem emits_noted (call : BackendCall) (task : Task σ α) :
    (Journaled.noted call task).Emits (· = [call]) := fun _ => ⟨[call], rfl, rfl⟩

theorem Silent.bind {task : Task (Journaled σ) α} {next : α → Task (Journaled σ) β}
    (silent : task.Silent) (rest : ∀ value, (next value).Silent) : (task >>= next).Silent := by
  intro world
  have first := silent world
  rcases bind_cases task next world with ⟨value, after, run, whole⟩ | same
  · rw [run] at first
    rw [whole, rest value after, first]
  · rw [same, first]

/-- What a task sends before a silent rest. -/
theorem Emits.bind {task : Task (Journaled σ) α} {next : α → Task (Journaled σ) β}
    (emits : task.Emits sends) (rest : ∀ value, (next value).Silent) :
    (task >>= next).Emits sends := by
  intro world
  obtain ⟨sent, first, allowed⟩ := emits world
  refine ⟨sent, ?_, allowed⟩
  rcases bind_cases task next world with ⟨value, after, run, whole⟩ | same
  · rw [run] at first
    rw [whole, rest value after, first]
  · rw [same, first]

/-- Two tasks that send what is allowed, one after the other. -/
theorem Emits.seq {task : Task (Journaled σ) α} {next : α → Task (Journaled σ) β}
    (emits : task.Emits sends) (rest : ∀ value, (next value).Emits sends)
    (joined : ∀ {first last}, sends first → sends last → sends (first ++ last)) :
    (task >>= next).Emits sends := by
  intro world
  obtain ⟨sent, first, allowed⟩ := emits world
  rcases bind_cases task next world with ⟨value, after, run, whole⟩ | same
  · rw [run] at first
    obtain ⟨more, last, behind⟩ := rest value after
    refine ⟨sent ++ more, ?_, joined allowed behind⟩
    rw [whole, last, first, List.append_assoc]
  · exact ⟨sent, by rw [same, first], allowed⟩

theorem silent_wait (span : Duration) : Silent (wait span : Task (Journaled σ) Unit) := by
  intro world
  rcases wait_cases span world with ⟨instant, run⟩ | ⟨depth, instant, error, _, run⟩
  · rw [run]
    rfl
  · rw [run]
    rfl

/-- What follows a result happens where there is one. -/
theorem emits_ofExcept_bind {result : Except Error α} {next : α → Task (Journaled σ) β}
    (rest : ∀ value, result = .ok value → (next value).Emits sends) (none : sends []) :
    (ofExcept result >>= next).Emits sends := by
  cases result with
  | error error => exact (silent_fail error).emits none
  | ok value => exact rest value rfl

theorem Emits.attempt {task : Task (Journaled σ) α} (emits : task.Emits sends) :
    task.attempt.Emits sends := by
  intro world
  obtain ⟨sent, calls, allowed⟩ := emits world
  refine ⟨sent, ?_, allowed⟩
  rw [← calls]
  unfold Task.attempt
  cases task world with
  | mk ending after => cases ending <;> rfl

/-- A context may keep a task from being started. -/
theorem Emits.within {task : Task (Journaled σ) α} (emits : task.Emits sends) (none : sends [])
    (context : Context) : (task.within context).Emits sends := by
  intro world
  rcases world_within task context world with same | started
  · rw [same]
    exact ⟨[], (List.append_nil _).symm, none⟩
  · rw [started]
    exact emits { world with guards := context :: world.guards }

end Task

namespace Connection

variable {σ α : Type}

/-- The session in which the statements of a connection run. -/
def session? (connection : Connection) : Option SessionId :=
  match connection.target with
  | .transaction session => some session
  | _ => none

/-- At most one statement is sent, and it is this one. -/
def Sends (session? : Option SessionId) (sql : String) (args : List Value)
    (sent : List BackendCall) : Prop :=
  sent = [] ∨ sent = [.statement session? sql args]

theorem executor_cases (connection : Connection) (world : World σ) :
    connection.executor world = (.done connection.session?, world) ∨
      ∃ error, connection.executor world = (.failed error, world) := by
  unfold executor session?
  cases connection.target with
  | pool => exact Or.inl rfl
  | detached => exact Or.inr ⟨_, rfl⟩
  | transaction session =>
    by_cases isOpen : session ∈ world.sessions
    · exact Or.inl (if_pos isOpen)
    · exact Or.inr ⟨_, if_neg isOpen⟩

/-- A statement reaches the backend once, in the form of the dialect, or it is not started. -/
theorem emits_dispatch (connection : Connection) (context : Context) (sql : String)
    (args : List Value)
    (operation : Option SessionId → String → List Value → Task (Journaled σ) α)
    (once : ∀ session? sql args,
      (operation session? sql args).Emits (· = [.statement session? sql args])) :
    (connection.dispatch context sql args operation).Emits
      (Sends connection.session? (connection.dialect.rebind sql) args) := by
  intro world
  rcases executor_cases connection world with found | ⟨error, refused⟩
  · have started := (once connection.session? (connection.dialect.rebind sql) args).mono
      fun sent same => (Or.inr same : Sends connection.session? _ args sent)
    have logged := ((started.within (Or.inl rfl) context).attempt).bind fun result =>
      (Task.silent_report (.executed (if connection.session?.isSome then .transaction else .pool)
        (connection.dialect.rebind sql) args.length result.isOk)).bind fun _ =>
          Task.silent_ofExcept result
    unfold dispatch
    rw [Task.bind_of_done found]
    exact logged world
  · unfold dispatch
    rw [Task.bind_of_failed refused]
    exact ⟨[], (List.append_nil _).symm, Or.inl rfl⟩

variable [Backend σ]

theorem emits_select (connection : Connection) (context : Context) (sql : String)
    (args : List Value) :
    (connection.select context sql args : Task (Journaled σ) (List Row)).Emits
      (Sends connection.session? (connection.dialect.rebind sql) args) :=
  emits_dispatch connection context sql args Backend.query fun _ _ _ => Task.emits_noted _ _

theorem emits_exec (connection : Connection) (context : Context) (sql : String)
    (args : List Value) :
    (connection.exec context sql args : Task (Journaled σ) WriteResult).Emits
      (Sends connection.session? (connection.dialect.rebind sql) args) :=
  emits_dispatch connection context sql args Backend.execute fun _ _ _ => Task.emits_noted _ _

theorem emits_get (connection : Connection) (context : Context) (sql : String)
    (args : List Value) :
    (connection.get context sql args : Task (Journaled σ) (Option Row)).Emits
      (Sends connection.session? (connection.dialect.rebind sql) args) :=
  (emits_select connection context sql args).bind fun _ => Task.silent_pure _

end Connection

/-- A task that makes these calls one after another: all of them when it is done, else some of the
first. -/
def Task.Delivers {σ : Type} (task : Task (Journaled σ) Unit) (calls : List BackendCall) : Prop :=
  ∀ world, ∃ sent, (task world).2.backend.calls = world.backend.calls ++ sent ∧ sent <+: calls ∧
    ((task world).1 = .done () → sent = calls)

/-- A context that lets a task be done has let it start. -/
theorem Task.Emits.sent_of_within_done {σ α : Type} {task : Task (Journaled σ) α}
    {sends : List BackendCall → Prop} (emits : task.Emits sends) {context : Context}
    {world after : World (Journaled σ)} {value : α}
    (run : task.within context world = (.done value, after)) :
    ∃ sent, after.backend.calls = world.backend.calls ++ sent ∧ sends sent := by
  obtain ⟨sent, calls, allowed⟩ := emits { world with guards := context :: world.guards }
  refine ⟨sent, ?_, allowed⟩
  rw [← calls]
  unfold Task.within at run
  split at run
  · cases run
  · cases ended : task { world with guards := context :: world.guards } with
    | mk ending middle =>
      rw [ended] at run
      cases ending with
      | done value =>
        cases run
        rfl
      | overtaken depth error =>
        dsimp only at run
        split at run
        · cases run
        · cases run
      | _ => cases run

namespace Connection

variable {σ : Type} [Backend σ]

/-- A statement that succeeds has reached the backend. -/
theorem calls_of_exec_done (connection : Connection) {context : Context} {sql : String}
    {args : List Value} {world after : World (Journaled σ)} {result : WriteResult}
    (run : connection.exec context sql args world = (.done result, after)) :
    after.backend.calls = world.backend.calls ++
      [.statement connection.session? (connection.dialect.rebind sql) args] := by
  unfold exec dispatch at run
  rcases executor_cases connection world with found | ⟨error, refused⟩
  · rw [Task.bind_of_done found, Task.bind_apply] at run
    cases started : (Backend.execute connection.session? (connection.dialect.rebind sql) args :
        Task (Journaled σ) WriteResult).within context world with
    | mk ending middle =>
      simp only [Task.attempt, started] at run
      cases ending with
      | done value =>
        obtain ⟨sent, calls, rfl⟩ := (Task.emits_noted _ _).sent_of_within_done started
        rw [← calls]
        exact congrArg (fun world => world.backend.calls) (congrArg Prod.snd run).symm
      | _ => cases run
  · rw [Task.bind_of_failed refused] at run
    cases run

theorem delivers_execAll (connection : Connection) (context : Context)
    (statements : List String) :
    (connection.execAll context statements : Task (Journaled σ) Unit).Delivers
      (statements.map fun sql =>
        .statement connection.session? (connection.dialect.rebind sql) []) := by
  induction statements with
  | nil => exact fun world => ⟨[], (List.append_nil _).symm, List.nil_prefix, fun _ => rfl⟩
  | cons sql rest ih =>
    intro world
    unfold execAll
    cases run : connection.exec context sql [] world with
    | mk ending after =>
      cases ending with
      | done result =>
        rw [Task.bind_of_done run]
        obtain ⟨sent, calls, begins, whole⟩ := ih after
        refine ⟨_ :: sent, ?_, List.prefix_cons_inj _ |>.mpr begins, fun finished => ?_⟩
        · rw [calls, connection.calls_of_exec_done run, List.append_assoc]
          rfl
        · rw [whole finished]
          rfl
      | _ =>
        obtain ⟨sent, calls, once⟩ := connection.emits_exec context sql [] world
        rw [run] at calls
        rw [Task.bind_apply, run]
        refine ⟨sent, calls, ?_, nofun⟩
        rcases once with rfl | rfl
        · exact List.nil_prefix
        · exact List.prefix_cons_inj _ |>.mpr List.nil_prefix

end Connection
end FluentSql
