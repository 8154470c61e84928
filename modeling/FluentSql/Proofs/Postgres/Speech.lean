import FluentSql.Proofs.Postgres.Moves
import FluentSql.Proofs.Task

/-! What a client says over one connection, and what it takes in. -/
namespace FluentSql.Postgres

open Relation

/-- Nothing has happened but traffic on one connection. -/
structure Spoke (connection : ConnectionId) (entries : List Traffic) (before after : Client) :
    Prop where
  pool : after.pool = before.pool
  sessions : after.sessions = before.sessions
  traffic : after.server.traffic = before.server.traffic ++ entries.map (connection, ·)

section Speech

variable {connection : ConnectionId} {first second entries : List Traffic}
variable {before between after : Client} {held : List (ConnectionId × Hold)} {α β : Type}

theorem spoke_nil (client : Client) : Spoke connection [] client client :=
  ⟨rfl, rfl, (List.append_nil _).symm⟩

theorem spoke_note (client : Client) (entry : Traffic) : Spoke connection [entry] client
    { client with server := client.server.note connection entry } := ⟨rfl, rfl, rfl⟩

theorem Spoke.situation (spoke : Spoke connection entries before after)
    (held : List (ConnectionId × Hold)) :
    after.situation held = (before.situation held).note connection entries := by
  simp only [Client.situation, Situation.note, spoke.pool, spoke.sessions, spoke.traffic]

theorem Spoke.trans (left : Spoke connection first before between)
    (right : Spoke connection second between after) :
    Spoke connection (first ++ second) before after := by
  refine ⟨right.pool.trans left.pool, right.sessions.trans left.sessions, ?_⟩
  rw [right.traffic, left.traffic, List.append_assoc, List.map_append]

theorem moves_of_ordinary {situation : Situation} (placed : Placed situation connection)
    (ordinary : ∀ entry ∈ entries, entry.message.Ordinary) :
    ReflTransGen Move situation (situation.note connection entries) := by
  induction entries generalizing situation with
  | nil =>
    rw [Situation.note_nil]
  | cons entry rest ih =>
    have step : Move situation (situation.note connection [entry]) :=
      .speak (ordinary entry List.mem_cons_self) placed
    have still : Placed (situation.note connection [entry]) connection := placed
    have behind := ih still fun other member => ordinary other (List.mem_cons_of_mem entry member)
    rw [← Situation.note_append] at behind
    exact .head step behind

theorem Spoke.moves (spoke : Spoke connection entries before after)
    (ordinary : ∀ entry ∈ entries, entry.message.Ordinary)
    (placed : Placed (before.situation held) connection) :
    ReflTransGen Move (before.situation held) (after.situation held) := by
  rw [spoke.situation held]
  exact moves_of_ordinary placed ordinary

/-- A call that does nothing but speak for a caller on one connection. -/
def Talks (connection : ConnectionId) (task : Task Client α) : Prop :=
  ∀ world, ∃ entries, Spoke connection entries world.backend (task world).2.backend ∧
    ∀ entry ∈ entries, entry.message.Ordinary

/-- A call that sends nothing but what is allowed, and takes in only answers to that. -/
def Tells (connection : ConnectionId) (allowed : Message → Prop) (task : Task Client α) : Prop :=
  ∀ world, ∃ entries, Spoke connection entries world.backend (task world).2.backend ∧
    ∀ entry ∈ entries, allowed entry.message

variable {allowed : Message → Prop}

theorem Tells.talks {task : Task Client α} (tells : Tells connection allowed task)
    (ordinary : ∀ message, allowed message → message.Ordinary) : Talks connection task := by
  intro world
  obtain ⟨entries, spoke, known⟩ := tells world
  exact ⟨entries, spoke, fun entry member => ordinary _ (known entry member)⟩

theorem tells_of_silent {task : Task Client α}
    (silent : ∀ world, Spoke connection [] world.backend (task world).2.backend) :
    Tells connection allowed task := by
  intro world
  exact ⟨[], silent world, nofun⟩

theorem tells_of_spoke {task : Task Client α} (entry : Traffic) (known : allowed entry.message)
    (spoke : ∀ world, Spoke connection [entry] world.backend (task world).2.backend) :
    Tells connection allowed task := by
  intro world
  refine ⟨_, spoke world, ?_⟩
  intro only member
  rw [List.mem_singleton.mp member]
  exact known

theorem Tells.bind {task : Task Client α} {next : α → Task Client β}
    (tells : Tells connection allowed task)
    (rest : ∀ value, Tells connection allowed (next value)) :
    Tells connection allowed (task >>= next) := by
  intro world
  obtain ⟨first, spoke, known⟩ := tells world
  rcases Task.bind_cases task next world with ⟨value, after, run, goesOn⟩ | ends
  · obtain ⟨second, spokeOn, knownOn⟩ := rest value after
    rw [run] at spoke
    rw [goesOn]
    refine ⟨first ++ second, spoke.trans spokeOn, ?_⟩
    intro entry member
    exact (List.mem_append.mp member).elim (known entry) (knownOn entry)
  · rw [ends]
    exact ⟨first, spoke, known⟩

end Speech

section Messages

variable (connection : ConnectionId) (message : Message) (world : World Client)

/-- A message is sent in any case, and leaves the faults of the server as they are; then its answer
is there, or a context ends the wait for it. -/
theorem exchange_cases :
    Spoke connection [.sent message] world.backend
      (Client.exchange connection message world).2.backend ∧
    (Client.exchange connection message world).2.backend.server.simpleFaults =
      world.backend.server.simpleFaults ∧
    ((Client.exchange connection message world).1 = .done () ∨
      ∃ depth error, (Client.exchange connection message world).1 = .overtaken depth error) := by
  let noted : World Client := { world with backend := { world.backend with
    server := world.backend.server.note connection (.sent message) } }
  have run : Client.exchange connection message world =
      Task.wait noted.backend.server.latency noted := rfl
  have sent : Spoke connection [.sent message] world.backend noted.backend :=
    spoke_note world.backend _
  rcases Task.wait_cases noted.backend.server.latency noted with
    ⟨instant, waited⟩ | ⟨depth, instant, error, _, waited⟩
  · rw [run, waited]
    exact ⟨sent, rfl, .inl rfl⟩
  · rw [run, waited]
    exact ⟨sent, rfl, .inr ⟨depth, error, rfl⟩⟩

theorem onServer_spoke {α : Type} {step : Server → α × Server}
    (kept : ∀ server, (step server).2.traffic = server.traffic) :
    Spoke connection [] world.backend (Client.onServer step world).2.backend := by
  refine ⟨rfl, rfl, ?_⟩
  exact (kept world.backend.server).trans (List.append_nil _).symm

theorem onServer_bind {α β : Type} (step : Server → α × Server) (next : α → Task Client β) :
    (Client.onServer step >>= next) world =
      next (step world.backend.server).1 (Client.onServer step world).2 := rfl

/-- What comes back for a statement that the server refuses with a fault or else accepts, by how the
wait for it ends. -/
inductive Answered (message : Message) (fault? : Option ServerFault) :
    Ending Unit → List Traffic → Prop
  | accepted (willing : fault? = none) : Answered message fault? (.done ()) [.accepted message]
  | refused {fault : ServerFault} (faulty : fault? = some fault) :
      Answered message fault? (.failed fault.error) [.refused message]
  | abandoned {depth : Nat} {error : Error} :
      Answered message fault? (.overtaken depth error) []

/-- An answer is noted, and it fails with the fault of the server if there is one. -/
theorem answer_cases (fault? : Option ServerFault) :
    ∃ answer, Spoke connection answer world.backend
        (Client.answer connection message fault? world).2.backend ∧
      Answered message fault? (Client.answer connection message fault? world).1 answer := by
  cases fault? with
  | none => exact ⟨_, spoke_note world.backend _, .accepted rfl⟩
  | some fault => exact ⟨_, spoke_note world.backend _, .refused rfl⟩

theorem fault_takeSimpleFault (server : Server) (sql : String) :
    (server.takeSimpleFault sql).1 = server.simpleFaults.lookup sql := by
  unfold Server.takeSimpleFault
  split
  · rename_i fault found
    exact found.symm
  · rename_i unlisted
    exact unlisted.symm

theorem traffic_takeSimpleFault (server : Server) (sql : String) :
    (server.takeSimpleFault sql).2.traffic = server.traffic := by
  unfold Server.takeSimpleFault
  split
  · rfl
  · rfl

theorem traffic_takeReply (server : Server) : server.takeReply.2.traffic = server.traffic := by
  unfold Server.takeReply
  split
  · rfl
  · rfl

theorem simple_cases (sql : String) :
    ∃ between answer, Spoke connection [.sent (.simple sql)] world.backend between ∧
      Spoke connection answer between (Client.simple connection sql world).2.backend ∧
      Answered (.simple sql) (world.backend.server.simpleFaults.lookup sql)
        (Client.simple connection sql world).1 answer := by
  obtain ⟨sent, kept, ending⟩ := exchange_cases connection (.simple sql) world
  unfold Client.simple
  cases run : Client.exchange connection (.simple sql) world with
  | mk ended after =>
    rw [run] at sent kept ending
    rcases ending with rfl | ⟨depth, error, rfl⟩
    · rw [Task.bind_of_done run, onServer_bind]
      have asked := onServer_spoke connection after (traffic_takeSimpleFault · sql)
      have fault : (after.backend.server.takeSimpleFault sql).1 =
          world.backend.server.simpleFaults.lookup sql := by rw [fault_takeSimpleFault, kept]
      obtain ⟨answer, back, answered⟩ := answer_cases connection (.simple sql) _ _
      refine ⟨_, answer, sent, asked.trans back, ?_⟩
      rw [← fault]
      exact answered
    · rw [Task.bind_of_overtaken run]
      exact ⟨_, _, sent, spoke_nil after.backend, .abandoned⟩

end Messages

/-- What is said for a prepared statement. -/
def Message.Carries (sql : String) (message : Message) : Prop :=
  message = .prepare sql ∨ ∃ parameters, message = .bind parameters

theorem Message.Carries.ordinary {sql : String} {message : Message}
    (carries : message.Carries sql) : message.Ordinary := by
  rcases carries with rfl | ⟨parameters, rfl⟩
  · exact fun _ _ => nofun
  · exact fun _ _ => nofun

section Statements

variable {connection : ConnectionId} {allowed : Message → Prop} {message : Message}

theorem tells_exchange (known : allowed message) :
    Tells connection allowed (Client.exchange connection message) := by
  exact tells_of_spoke (.sent message) known fun world =>
    (exchange_cases connection message world).1

theorem tells_answer (known : allowed message) (fault? : Option ServerFault) :
    Tells connection allowed (Client.answer connection message fault?) := by
  cases fault? with
  | none =>
    exact tells_of_spoke (.accepted message) known fun world => spoke_note world.backend _
  | some fault =>
    exact tells_of_spoke (.refused message) known fun world => spoke_note world.backend _

theorem tells_prepared (sql : String) (args : List Value) :
    Tells connection (Message.Carries sql) (Client.prepared connection sql args) := by
  have prepare : (Message.prepare sql).Carries sql := .inl rfl
  refine (tells_exchange prepare).bind fun _ => ?_
  refine Tells.bind (tells_of_silent fun world => ?_) fun reply => ?_
  · exact onServer_spoke connection world traffic_takeReply
  refine (tells_answer prepare _).bind fun _ => ?_
  cases reply.bind args with
  | error fault => exact tells_of_silent fun world => spoke_nil world.backend
  | ok parameters =>
    have bind : (Message.bind parameters).Carries sql := .inr ⟨parameters, rfl⟩
    refine (tells_exchange bind).bind fun _ => ?_
    refine (tells_answer bind _).bind fun _ => ?_
    exact tells_of_silent fun world => spoke_nil world.backend

theorem talks_prepared (sql : String) (args : List Value) :
    Talks connection (Client.prepared connection sql args) :=
  (tells_prepared sql args).talks fun _ carries => carries.ordinary

theorem talks_ping : Talks connection (Client.simple connection "SELECT 1") := by
  have ordinary : (Message.simple "SELECT 1").Ordinary := by
    unfold Message.Ordinary controls
    decide
  have tells : Tells connection Message.Ordinary (Client.simple connection "SELECT 1") := by
    refine (tells_exchange ordinary).bind fun _ => ?_
    refine Tells.bind (tells_of_silent fun world => ?_) (tells_answer ordinary)
    exact onServer_spoke connection world (traffic_takeSimpleFault · _)
  exact tells

end Statements

end FluentSql.Postgres
