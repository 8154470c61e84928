import FluentSql.Proofs.Postgres.Sound
import FluentSql.Proofs.Postgres.Speech

/-! The calls of a client make moves only. Between two waits a call is not interrupted, so what it
does there is one move. -/
namespace FluentSql.Postgres

open Relation

section Moves

variable {connection : ConnectionId} {before after : Client} {held : List (ConnectionId × Hold)}

/-- The first of the connections that calls have taken. -/
theorem first_position {situation : Situation} {place : ConnectionId × Hold}
    (first : situation.held = place :: held) : situation.held = [] ++ place :: held := first

theorem move_giveBack {hold : Hold} {entries : List Traffic} (leaves : hold.Leaves entries)
    (spoke : Spoke connection entries before after) :
    Move (before.situation ((connection, hold) :: held))
      ({ after with pool := after.pool.release connection }.situation held) := by
  have result : { after with pool := after.pool.release connection }.situation held =
      { before.situation held with
        pool := before.pool.release connection : Situation }.note connection entries := by
    simp only [Client.situation, Situation.note, spoke.pool, spoke.sessions, spoke.traffic]
  rw [result]
  exact .giveBack (first_position rfl) leaves

theorem move_refuseClose {sql : String}
    (spoke : Spoke connection [.refused (.simple sql)] before after) :
    Move (before.situation ((connection, .awaiting sql) :: held))
      ({ after with pool := after.pool.detach }.situation held) := by
  have result : { after with pool := after.pool.detach }.situation held =
      { before.situation held with
        pool := before.pool.detach : Situation }.note connection [.refused (.simple sql)] := by
    simp only [Client.situation, Situation.note, spoke.pool, spoke.sessions, spoke.traffic]
  rw [result]
  exact .refuseClose (first_position rfl)

theorem move_begin (spoke : Spoke connection [.sent (.simple "BEGIN")] before after) :
    Move (before.situation ((connection, .statement) :: held))
      (after.situation ((connection, .awaiting "BEGIN") :: held)) := by
  rw [spoke.situation]
  exact .begin (first_position rfl)

theorem move_begun (spoke : Spoke connection [.accepted (.simple "BEGIN")] before after) :
    Move (before.situation ((connection, .awaiting "BEGIN") :: held))
      ({ after with sessions := after.sessions ++ [some connection] }.situation held) := by
  have result : { after with sessions := after.sessions ++ [some connection] }.situation held =
      { before.situation held with
        sessions := before.sessions ++ [some connection] : Situation }.note connection
          [.accepted (.simple "BEGIN")] := by
    simp only [Client.situation, Situation.note, spoke.pool, spoke.sessions, spoke.traffic]
  rw [result]
  exact .begun (first_position rfl)

theorem move_close {session : SessionId} {sql : String}
    (member : before.sessions[session]? = some (some connection))
    (ends : (Message.simple sql).Ends)
    (spoke : Spoke connection [.sent (.simple sql)]
      { before with sessions := before.sessions.set session none } after) :
    Move (before.situation held) (after.situation ((connection, .awaiting sql) :: held)) := by
  rw [spoke.situation]
  exact .close member ends

end Moves

/-- A call that makes moves and gives back what it takes, whatever other calls have taken. -/
def Walks {α : Type} (task : Task Client α) : Prop :=
  ∀ (world : World Client) (held : List (ConnectionId × Hold)), ReflTransGen Move
    (world.backend.situation held) ((task world).2.backend.situation held)

section Walking

variable {α β : Type}

theorem Walks.bind {task : Task Client α} {next : α → Task Client β} (walks : Walks task)
    (rest : ∀ value, Walks (next value)) : Walks (task >>= next) := by
  intro world held
  have first := walks world held
  rcases Task.bind_cases task next world with ⟨value, after, run, goesOn⟩ | ends
  · rw [run] at first
    rw [goesOn]
    exact first.trans (rest value after held)
  · rw [ends]
    exact first

theorem walks_pure (value : α) : Walks (pure value) := fun _ _ => .refl

theorem walks_ofExcept (result : Except Error α) : Walks (Task.ofExcept result) := by
  cases result with
  | error error => exact fun _ _ => .refl
  | ok value => exact walks_pure value

theorem Walks.within {task : Task Client α} (walks : Walks task) (context : Context) :
    Walks (task.within context) := by
  intro world held
  rcases Task.world_within task context world with same | started
  · rw [same]
  · rw [started]
    exact walks { world with guards := context :: world.guards } held

/-- What calls have taken once one more has asked for a connection. -/
def taken (held : List (ConnectionId × Hold)) : Ending ConnectionId → List (ConnectionId × Hold)
  | .done connection => (connection, .statement) :: held
  | _ => held

theorem taken_of_ne_done {held : List (ConnectionId × Hold)} {ending : Ending ConnectionId}
    (never : ∀ connection, ending ≠ .done connection) : taken held ending = held := by
  cases ending with
  | done connection => exact absurd rfl (never connection)
  | _ => rfl

theorem acquire_moves (world : World Client) (held : List (ConnectionId × Hold)) :
    ReflTransGen Move (world.backend.situation held)
      ((Client.acquire world).2.backend.situation (taken held (Client.acquire world).1)) := by
  have looked : Task.read (fun world : World Client => world.backend.pool.supply) world =
      (.done world.backend.pool.supply, world) := rfl
  unfold Client.acquire
  rw [Task.bind_of_done looked]
  cases supply : world.backend.pool.supply with
  | reuse connection => exact .single (.lend supply)
  | openNew connection =>
    dsimp only
    rw [onServer_bind]
    unfold Server.takeConnectFault
    cases world.backend.server.connectFault? with
    | some fault => exact .single (.refuse supply)
    | none => exact .single (.connect supply)
  | exhausted =>
    obtain ⟨same, never⟩ := Task.bind_waitUntil_none (fun _ => pure (0 : ConnectionId)) world
    dsimp only
    rw [taken_of_ne_done never, same]

/-- A call on a connection that it gives back, or leaves to a session or to nobody. -/
def Returns (connection : ConnectionId) (task : Task Client α) : Prop :=
  ∀ (world : World Client) (held : List (ConnectionId × Hold)), ReflTransGen Move
    (world.backend.situation ((connection, .statement) :: held))
    ((task world).2.backend.situation held)

theorem walks_acquire {next : ConnectionId → Task Client α}
    (returns : ∀ connection, Returns connection (next connection)) :
    Walks (Client.acquire >>= next) := by
  intro world held
  have first := acquire_moves world held
  rw [Task.bind_apply]
  cases run : (Client.acquire world).1 with
  | done connection =>
    rw [run] at first
    exact first.trans (returns connection _ held)
  | _ =>
    rw [run] at first
    exact first

theorem walks_borrow {call : ConnectionId → Task Client α}
    (talks : ∀ connection, Talks connection (call connection)) : Walks (Client.borrow call) := by
  refine walks_acquire fun connection => ?_
  intro world held
  obtain ⟨entries, spoke, ordinary⟩ := talks connection world
  have placed : Placed (world.backend.situation ((connection, .statement) :: held)) connection :=
    .inl List.mem_cons_self
  exact (spoke.moves ordinary placed).tail (move_giveBack .statement (spoke_nil _))

/-- A statement runs on a connection from the pool, or on that of its session, which keeps it. -/
theorem walks_withConnection (session? : Option SessionId) {call : ConnectionId → Task Client α}
    (talks : ∀ connection, Talks connection (call connection)) :
    Walks (Client.withConnection session? call) := by
  cases session? with
  | none => exact walks_borrow talks
  | some session =>
    intro world held
    have looked : Task.read (fun world : World Client => world.backend.connectionOf? session)
        world = (.done (world.backend.connectionOf? session), world) := rfl
    unfold Client.withConnection
    dsimp only
    rw [Task.bind_of_done looked]
    cases member : world.backend.connectionOf? session with
    | none => exact .refl
    | some connection =>
      obtain ⟨entries, spoke, ordinary⟩ := talks connection world
      have place : world.backend.sessions[session]? = some (some connection) :=
        Option.join_eq_some_iff.mp member
      exact spoke.moves ordinary (.inr (List.mem_of_getElem? place))

/-- A transaction that opens is a session; a connection on which it does not open goes back, also
when nobody has waited for the answer. -/
theorem walks_openSession : Walks Client.openSession := by
  refine walks_acquire fun connection => ?_
  intro world held
  obtain ⟨between, answer, sent, back, answered⟩ := simple_cases connection world "BEGIN"
  have begin : Move (world.backend.situation ((connection, .statement) :: held)) _ :=
    move_begin sent
  cases run : Client.simple connection "BEGIN" world with
  | mk ending after =>
    rw [run] at back answered
    have settled := Task.settle_of_run run fun ending world =>
      if ending.isDone then world else Client.afterwards (·.release connection) world
    cases answered with
    | accepted =>
      rw [Task.bind_of_done settled]
      exact .tail (.single begin) (move_begun back)
    | refused =>
      rw [Task.bind_of_failed settled]
      exact .tail (.single begin) (move_giveBack .refused back)
    | abandoned =>
      rw [Task.bind_of_overtaken settled]
      exact .tail (.single begin) (move_giveBack .abandoned back)

/-- A session that is finished already does not change any more. -/
theorem sessions_of_finished {client : Client} {session : SessionId}
    (finished : client.connectionOf? session = none) :
    client.sessions.set session none = client.sessions := by
  unfold Client.connectionOf? at finished
  cases place : client.sessions[session]? with
  | none => exact List.set_eq_of_length_le (List.getElem?_eq_none_iff.mp place)
  | some member =>
    rw [place] at finished
    obtain ⟨bound, same⟩ := List.getElem?_eq_some_iff.mp place
    have gone : member = none := finished
    rw [← gone, ← same]
    exact List.set_getElem_self bound

theorem situation_of_finished {world : World Client} {session : SessionId}
    (finished : world.backend.connectionOf? session = none) (held : List (ConnectionId × Hold)) :
    (Client.takeConnection session world).2.backend.situation held =
      world.backend.situation held := by
  have same := sessions_of_finished finished
  simp only [Client.situation, Client.takeConnection, Task.onBackend, same]

theorem takeConnection_bind (session : SessionId) (next : Option ConnectionId → Task Client α)
    (world : World Client) : (Client.takeConnection session >>= next) world =
      next (world.backend.connectionOf? session) (Client.takeConnection session world).2 := rfl

/-- The connection of a transaction goes back once its end is accepted, and also when nobody has
waited for the answer. It leaves the pool when its end is refused. -/
theorem walks_finish (session : SessionId) {sql : String} (ends : (Message.simple sql).Ends) :
    Walks (Client.finish session sql) := by
  intro world held
  unfold Client.finish
  rw [takeConnection_bind]
  cases found : world.backend.connectionOf? session with
  | none =>
    have same := situation_of_finished found held
    exact same ▸ .refl
  | some connection =>
    have member : world.backend.sessions[session]? = some (some connection) :=
      Option.join_eq_some_iff.mp found
    obtain ⟨between, answer, sent, back, answered⟩ :=
      simple_cases connection (Client.takeConnection session world).2 sql
    have close : Move (world.backend.situation held) _ := move_close member ends sent
    dsimp only
    cases run : Client.simple connection sql (Client.takeConnection session world).2 with
    | mk ending after =>
      rw [run] at back answered
      rw [Task.settle_of_run run]
      cases answered with
      | accepted => exact .tail (.single close) (move_giveBack (.closed ends) back)
      | refused => exact .tail (.single close) (move_refuseClose back)
      | abandoned => exact .tail (.single close) (move_giveBack .abandoned back)

theorem walks_discardSession (session : SessionId) : Walks (Client.discardSession session) := by
  intro world held
  unfold Client.discardSession
  rw [takeConnection_bind]
  cases found : world.backend.connectionOf? session with
  | none =>
    have same := situation_of_finished found held
    exact same ▸ .refl
  | some connection =>
    have member : world.backend.sessions[session]? = some (some connection) :=
      Option.join_eq_some_iff.mp found
    exact .single (.drop member)

end Walking

/-- What is asked of a client. -/
inductive Call where
  | query (session? : Option SessionId) (sql : String) (args : List Value)
  | execute (session? : Option SessionId) (sql : String) (args : List Value)
  | ping
  | begin
  | commit (session : SessionId)
  | rollback (session : SessionId)
  | discard (session : SessionId)

/-- A call, for what it does to the client. -/
def Call.run : Call → Task Client Unit
  | query session? sql args => do let _ ← (Backend.query session? sql args : Task Client (List Row))
  | execute session? sql args => do
    let _ ← (Backend.execute session? sql args : Task Client WriteResult)
  | ping => Backend.ping
  | begin => do let _ ← (Backend.begin : Task Client SessionId)
  | commit session => Backend.commit session
  | rollback session => Backend.rollback session
  | discard session => Backend.discard session

theorem walks_run (call : Call) : Walks call.run := by
  cases call with
  | query session? sql args =>
    have statement := walks_withConnection session? fun connection =>
      talks_prepared sql args
    refine Walks.bind (statement.bind fun reply => ?_) walks_pure
    exact walks_ofExcept _
  | execute session? sql args =>
    have statement := walks_withConnection session? fun connection =>
      talks_prepared sql args
    exact Walks.bind (statement.bind fun reply => walks_pure _) walks_pure
  | ping => exact walks_borrow fun connection => talks_ping
  | begin => exact Walks.bind walks_openSession fun _ => walks_pure _
  | commit session => exact walks_finish session (.inl rfl)
  | rollback session => exact walks_finish session (.inr rfl)
  | discard session => exact walks_discardSession session

/-- However calls take turns, with or without contexts that end them, a transaction is left open on
an idle connection only where the pool did not wait for the answer to a BEGIN, COMMIT or ROLLBACK,
or where a caller began the transaction on its own. -/
theorem open_transactions_have_an_excuse {maxSize : Nat} {situation : Situation}
    (reachable : Reachable maxSize situation) :
    (∀ connection ∈ situation.pool.idle, Excused (own situation.traffic connection)) ∧
    ∀ (call : Call) (context : Context) (world : World Client) (held : List (ConnectionId × Hold)),
      world.backend.situation held = situation →
        Reachable maxSize ((call.run.within context world).2.backend.situation held) := by
  refine ⟨(sound_of_reachable reachable).idle, ?_⟩
  intro call context world held here
  have moves := (walks_run call).within context world held
  rw [here] at moves
  exact reachable.trans moves

/-- A fresh client of one connection whose server takes five milliseconds for every answer. -/
def slowServer : World Client :=
  .start { Client.start 1 with server := { Server.idle with latency := ⟨5000000⟩ } }

/-- A context that gives up after a millisecond. -/
def hurried : Context := Context.background.timeout 0 ⟨1000000⟩

theorem open_transactions_have_an_excuse_hurried :
    Reachable 1 (slowServer.backend.situation []) ∧
      Excused (own (Call.begin.run.within hurried slowServer).2.backend.server.traffic 1) := by
  have fresh : Reachable 1 (slowServer.backend.situation []) := .refl
  have begun := (open_transactions_have_an_excuse fresh).2 .begin hurried slowServer [] rfl
  exact ⟨fresh, (open_transactions_have_an_excuse begun).1 1 (by decide)⟩

/-- The BEGIN that nobody waited for is on its way when the connection is back in the pool. -/
theorem hurried_begin_is_idle_and_open :
    (Call.begin.run.within hurried slowServer).2.backend.pool.idle = [1] ∧
      Exposed (own (Call.begin.run.within hurried slowServer).2.backend.server.traffic 1) := by
  refine ⟨rfl, [], .simple "BEGIN", [], rfl, ?_⟩
  exact ⟨rfl, nofun, fun _ _ => nofun⟩

end FluentSql.Postgres
