import FluentSql.Proofs.Backend.Journal
import FluentSql.Proofs.Cache.ReadThrough

/-! Statements that are sent: the backend gets one that is not refused, and gets it once. -/
namespace FluentSql

namespace Task

variable {σ α β : Type}

/-- A context that has not fired starts its task. -/
theorem world_within_of_sound (task : Task σ α) {context : Context} {world : World σ}
    (sound : context.fault? world.clock = none) :
    (task.within context world).2 =
      { (task { world with guards := context :: world.guards }).2 with
        guards := world.guards } := by
  unfold within
  rw [sound]
  dsimp only
  split
  · split
    · rfl
    · rfl
  · rfl

theorem calls_bind_of_silent (task : Task (Journaled σ) α)
    {next : α → Task (Journaled σ) β} (rest : ∀ value, (next value).Silent)
    (world : World (Journaled σ)) :
    ((task >>= next) world).2.backend.calls = (task world).2.backend.calls := by
  rcases bind_cases task next world with ⟨value, after, run, whole⟩ | same
  · rw [whole, rest value after, run]
  · rw [same]

end Task

namespace Connection

variable {σ α β : Type}

/-- What becomes of a statement: the backend gets it, in the form of the dialect and once, or it is
refused and the backend gets nothing. -/
structure Sent (connection : Connection) (context : Context) (sql : String) (args : List Value)
    (world : World (Journaled σ)) (result : Ending α × World (Journaled σ)) : Prop where
  refused : ∀ error, connection.refusal? context world = some error →
    result.1 = .failed error ∧ result.2.backend.calls = world.backend.calls
  started : connection.refusal? context world = none →
    result.2.backend.calls = world.backend.calls ++
      [.statement connection.session? (connection.dialect.rebind sql) args]

variable {connection : Connection} {context : Context} {sql : String} {args : List Value}
  {world : World (Journaled σ)}

/-- On the pool, or in a transaction that is open, nothing is refused without a deadline and without
a signal. -/
theorem refusal?_background
    (found : connection.executor world = (.done connection.session?, world)) :
    connection.refusal? .background world = none := by
  unfold refusal?
  rw [found]
  rfl

theorem Sent.bind {task : Task (Journaled σ) α} {next : α → Task (Journaled σ) β}
    (sent : connection.Sent context sql args world (task world))
    (rest : ∀ value, (next value).Silent) :
    connection.Sent context sql args world ((task >>= next) world) where
  refused error refusal := by
    obtain ⟨failed, calls⟩ := sent.refused error refusal
    have run : task world = (.failed error, (task world).2) := Prod.ext failed rfl
    rw [Task.bind_of_failed run]
    exact ⟨rfl, calls⟩
  started free := by
    rw [Task.calls_bind_of_silent task rest, sent.started free]

theorem sent_dispatch (connection : Connection) (context : Context) (sql : String)
    (args : List Value)
    (operation : Option SessionId → String → List Value → Task (Journaled σ) α)
    (once : ∀ session? sql args,
      (operation session? sql args).Emits (· = [.statement session? sql args]))
    (world : World (Journaled σ)) :
    connection.Sent context sql args world
      (connection.dispatch context sql args operation world) := by
  rcases executor_cases connection world with found | ⟨error, nowhere⟩
  · have asked : connection.refusal? context world = context.fault? world.clock := by
      unfold refusal?
      rw [found]
    have whole : ∃ log, connection.dispatch context sql args operation world =
        (((operation connection.session? (connection.dialect.rebind sql) args).within context
            world).1,
          { ((operation connection.session? (connection.dialect.rebind sql) args).within context
            world).2 with log := log }) := by
      unfold dispatch
      rw [Task.bind_of_done found]
      exact Task.attempt_report _ _ world
    obtain ⟨log, whole⟩ := whole
    rw [whole]
    constructor
    · intro error refusal
      unfold Task.within
      rw [← asked, refusal]
      exact ⟨rfl, rfl⟩
    · intro free
      obtain ⟨sent, calls, same⟩ :=
        once connection.session? (connection.dialect.rebind sql) args
          { world with guards := context :: world.guards }
      rw [Task.world_within_of_sound _ (asked.symm.trans free)]
      exact calls.trans (congrArg _ same)
  · have refusal : connection.refusal? context world = some error := by
      unfold refusal?
      rw [nowhere]
    have whole : connection.dispatch context sql args operation world = (.failed error, world) :=
      Task.bind_of_failed nowhere _
    rw [whole]
    constructor
    · intro other refused
      rw [Option.some.inj (refusal.symm.trans refused)]
      exact ⟨rfl, rfl⟩
    · intro free
      rw [refusal] at free
      cases free

variable [Backend σ]

theorem sent_select (connection : Connection) (context : Context) (sql : String)
    (args : List Value) (world : World (Journaled σ)) :
    connection.Sent context sql args world (connection.select context sql args world) :=
  sent_dispatch connection context sql args Backend.query
    (fun _ _ _ => Task.emits_noted _ _) world

theorem sent_exec (connection : Connection) (context : Context) (sql : String)
    (args : List Value) (world : World (Journaled σ)) :
    connection.Sent context sql args world (connection.exec context sql args world) :=
  sent_dispatch connection context sql args Backend.execute
    (fun _ _ _ => Task.emits_noted _ _) world

end Connection
end FluentSql
