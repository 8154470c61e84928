import FluentSql.Postgres.Client
import FluentSql.Proofs.Postgres.Exposure
import Mathlib.Logic.Relation

/-! A pool, its sessions and the calls that are running on them, one move of one call after the
other. Calls may move in any order, and every wait for an answer may be given up. -/
namespace FluentSql.Postgres

/-- What a running call does with the connection that it has taken. -/
inductive Hold where
  /-- It runs statements of a caller, or is about to begin a transaction. -/
  | statement
  /-- It has sent a statement of the pool and waits for the answer. -/
  | awaiting (sql : String)
  deriving DecidableEq

namespace Hold

/-- What comes back last on a connection that a call gives back to the pool. -/
inductive Leaves : Hold → List Traffic → Prop
  /-- A call on the pool ends, or is given up. -/
  | statement : Leaves .statement []
  | refused : Leaves (.awaiting "BEGIN") [.refused (.simple "BEGIN")]
  | closed {sql : String} (ends : (Message.simple sql).Ends) :
    Leaves (.awaiting sql) [.accepted (.simple sql)]
  /-- A call stops waiting for the answer to a statement of the pool. -/
  | abandoned {sql : String} : Leaves (.awaiting sql) []

/-- What is known of a connection's traffic while a call has it. -/
def Fits : Hold → List Traffic → Prop
  | .statement, traffic => Excused traffic
  | .awaiting sql, traffic => sql ∈ controls ∧
    ∃ before, traffic = before ++ [.sent (.simple sql)] ∧ (sql = "BEGIN" → Excused before)

end Hold

structure Situation where
  pool : ConnectionPool
  sessions : List (Option ConnectionId)
  traffic : List (ConnectionId × Traffic)
  /-- The connections that running calls have taken. -/
  held : List (ConnectionId × Hold)

/-- The traffic of one connection. -/
def own (traffic : List (ConnectionId × Traffic)) (connection : ConnectionId) : List Traffic :=
  (traffic.filter (·.1 = connection)).map Prod.snd

/-- Where a client is, with the connections that running calls have taken. -/
def Client.situation (client : Client) (held : List (ConnectionId × Hold)) : Situation :=
  ⟨client.pool, client.sessions, client.server.traffic, held⟩

namespace Situation

/-- Traffic on one connection. -/
def note (situation : Situation) (connection : ConnectionId) (entries : List Traffic) :
    Situation :=
  { situation with traffic := situation.traffic ++ entries.map (connection, ·) }

/-- How often a connection is idle, taken by a call or part of a session. -/
def uses (situation : Situation) (connection : ConnectionId) : Nat :=
  situation.pool.idle.count connection + (situation.held.map Prod.fst).count connection +
    situation.sessions.count (some connection)

@[simp] theorem own_note_self (situation : Situation) (connection : ConnectionId)
    (entries : List Traffic) : own (situation.note connection entries).traffic connection =
      own situation.traffic connection ++ entries := by
  simp [own, note, List.filter_map, Function.comp_def]

theorem note_nil (situation : Situation) (connection : ConnectionId) :
    situation.note connection [] = situation := by
  simp [note]

theorem note_append (situation : Situation) (connection : ConnectionId)
    (first second : List Traffic) : situation.note connection (first ++ second) =
      (situation.note connection first).note connection second := by
  simp [note]

theorem own_note_of_ne (situation : Situation) {connection other : ConnectionId}
    (apart : other ≠ connection) (entries : List Traffic) :
    own (situation.note connection entries).traffic other = own situation.traffic other := by
  simp [own, note, List.filter_map, Function.comp_def, apart.symm]

end Situation

/-- Where a call may speak for a caller: on a connection it has taken, or on that of a session. -/
def Placed (situation : Situation) (connection : ConnectionId) : Prop :=
  (connection, .statement) ∈ situation.held ∨ some connection ∈ situation.sessions

/-- One move of one call. -/
inductive Move (situation : Situation) : Situation → Prop
  /-- A call takes an idle connection. -/
  | lend {connection : ConnectionId} (supply : situation.pool.supply = .reuse connection) :
    Move situation { situation with
      pool := situation.pool.lend, held := (connection, .statement) :: situation.held }
  /-- A call takes a new connection. -/
  | connect {connection : ConnectionId} (supply : situation.pool.supply = .openNew connection) :
    Move situation { situation with
      pool := situation.pool.addOpened, held := (connection, .statement) :: situation.held }
  /-- The server refuses a new connection. -/
  | refuse {connection : ConnectionId} (supply : situation.pool.supply = .openNew connection) :
    Move situation { situation with pool := situation.pool.addRefused }
  /-- Something is sent for a caller, or comes back for one. -/
  | speak {connection : ConnectionId} {entry : Traffic} (ordinary : entry.message.Ordinary)
    (placed : Placed situation connection) :
    Move situation (situation.note connection [entry])
  | begin {connection : ConnectionId} {front back : List (ConnectionId × Hold)}
    (position : situation.held = front ++ (connection, .statement) :: back) :
    Move situation ({ situation with
      held := front ++ (connection, .awaiting "BEGIN") :: back : Situation }.note connection
        [.sent (.simple "BEGIN")])
  | begun {connection : ConnectionId} {front back : List (ConnectionId × Hold)}
    (position : situation.held = front ++ (connection, .awaiting "BEGIN") :: back) :
    Move situation ({ situation with
      sessions := situation.sessions ++ [some connection],
      held := front ++ back : Situation }.note connection [.accepted (.simple "BEGIN")])
  /-- A session is committed or rolled back, which finishes it. -/
  | close {session : SessionId} {connection : ConnectionId} {sql : String}
    (member : situation.sessions[session]? = some (some connection))
    (ends : (Message.simple sql).Ends) :
    Move situation ({ situation with
      sessions := situation.sessions.set session none,
      held := (connection, .awaiting sql) :: situation.held : Situation }.note connection
        [.sent (.simple sql)])
  /-- A call gives its connection back to the pool. -/
  | giveBack {connection : ConnectionId} {hold : Hold} {front back : List (ConnectionId × Hold)}
    {entries : List Traffic}
    (position : situation.held = front ++ (connection, hold) :: back)
    (leaves : hold.Leaves entries) :
    Move situation ({ situation with
      pool := situation.pool.release connection,
      held := front ++ back : Situation }.note connection entries)
  | refuseClose {connection : ConnectionId} {sql : String}
    {front back : List (ConnectionId × Hold)}
    (position : situation.held = front ++ (connection, .awaiting sql) :: back) :
    Move situation ({ situation with
      pool := situation.pool.detach,
      held := front ++ back : Situation }.note connection [.refused (.simple sql)])
  /-- A session is dropped open. -/
  | drop {session : SessionId} {connection : ConnectionId}
    (member : situation.sessions[session]? = some (some connection)) :
    Move situation { situation with
      pool := situation.pool.detach, sessions := situation.sessions.set session none }

/-- What moves can come to from a fresh client. -/
def Reachable (maxSize : Nat) (situation : Situation) : Prop :=
  Relation.ReflTransGen Move ((Client.start maxSize).situation []) situation

end FluentSql.Postgres
