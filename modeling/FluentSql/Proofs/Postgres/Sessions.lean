import FluentSql.Proofs.Postgres.Calls

/-! The life of one session: statements on its connection, until a COMMIT or a ROLLBACK or the end
of the session itself gives the connection up. What comes behind that finds no connection. -/
namespace FluentSql.Postgres

/-- What is asked of a session by those who hold it. -/
inductive Request where
  | query (sql : String) (args : List Value)
  | execute (sql : String) (args : List Value)
  | commit
  | rollback
  | drop
  deriving DecidableEq

namespace Request

def call (session : SessionId) : Request → Call
  | query sql args => .query (some session) sql args
  | execute sql args => .execute (some session) sql args
  | commit => .commit session
  | rollback => .rollback session
  | drop => .discard session

/-- The statement that finishes a transaction. -/
def closing? : Request → Option String
  | commit => some "COMMIT"
  | rollback => some "ROLLBACK"
  | _ => none

/-- What may be said for a request: the statement of the caller, or the one that finishes the
transaction. -/
def Allows : Request → Message → Prop
  | query sql _, message => message.Carries sql
  | execute sql _, message => message.Carries sql
  | request, message => ∃ sql, request.closing? = some sql ∧ message = .simple sql

/-- Whether a request leaves the session without its connection. -/
def Finishes (request : Request) : Prop := request.closing?.isSome ∨ request = .drop

theorem run_of_closing {request : Request} {sql : String} (session : SessionId)
    (closing : request.closing? = some sql) :
    (request.call session).run = Client.finish session sql := by
  cases request with
  | commit =>
    cases closing
    rfl
  | rollback =>
    cases closing
    rfl
  | _ => cases closing

theorem allows_of_closing {request : Request} {sql : String}
    (closing : request.closing? = some sql) : request.Allows (.simple sql) := by
  cases request with
  | commit => exact ⟨sql, closing, rfl⟩
  | rollback => exact ⟨sql, closing, rfl⟩
  | _ => cases closing

/-- A request that does not finish a session is a statement of its caller. -/
theorem carries_of_allows {request : Request} {message : Message} (statement : ¬ request.Finishes)
    (allowed : request.Allows message) : ∃ sql, message.Carries sql := by
  cases request with
  | query sql args => exact ⟨sql, allowed⟩
  | execute sql args => exact ⟨sql, allowed⟩
  | commit => exact absurd (.inl rfl) statement
  | rollback => exact absurd (.inl rfl) statement
  | drop => exact absurd (.inr rfl) statement

/-- How a request ends that finds no connection. -/
def vain : Request → Ending Unit
  | drop => .done ()
  | _ => .failed .sessionFinished

theorem vain_of_ne_drop {request : Request} (kept : request ≠ .drop) :
    request.vain = .failed .sessionFinished := by
  cases request with
  | drop => exact absurd rfl kept
  | _ => rfl

end Request

section Finished

variable {session : SessionId} {world : World Client}

theorem takeConnection_of_finished (finished : world.backend.connectionOf? session = none) :
    (Client.takeConnection session world).2 = world := by
  have same := sessions_of_finished finished
  simp only [Client.takeConnection, Task.onBackend, same]

theorem withConnection_of_finished {α : Type} (call : ConnectionId → Task Client α)
    (finished : world.backend.connectionOf? session = none) :
    Client.withConnection (some session) call world = (.failed .sessionFinished, world) := by
  have looked : Task.read (fun world : World Client => world.backend.connectionOf? session) world =
      (.done none, world) := by
    rw [← finished]
    rfl
  unfold Client.withConnection
  dsimp only
  rw [Task.bind_of_done looked]
  rfl

theorem finish_of_finished (sql : String)
    (finished : world.backend.connectionOf? session = none) :
    Client.finish session sql world = (.failed .sessionFinished, world) := by
  unfold Client.finish
  rw [takeConnection_bind, finished, takeConnection_of_finished finished]
  rfl

theorem discardSession_of_finished (finished : world.backend.connectionOf? session = none) :
    Client.discardSession session world = (.done (), world) := by
  unfold Client.discardSession
  rw [takeConnection_bind, finished, takeConnection_of_finished finished]
  rfl

/-- Without its connection a session refuses everything, and nothing happens. -/
theorem run_of_finished (request : Request)
    (finished : world.backend.connectionOf? session = none) :
    (request.call session).run world = (request.vain, world) := by
  cases request with
  | query sql args =>
    have refused := withConnection_of_finished
      (fun connection => Client.prepared connection sql args) finished
    exact Task.bind_of_failed (Task.bind_of_failed refused _) _
  | execute sql args =>
    have refused := withConnection_of_finished
      (fun connection => Client.prepared connection sql args) finished
    exact Task.bind_of_failed (Task.bind_of_failed refused _) _
  | commit => exact finish_of_finished "COMMIT" finished
  | rollback => exact finish_of_finished "ROLLBACK" finished
  | drop => exact discardSession_of_finished finished

end Finished

section Open

variable {session : SessionId} {connection : ConnectionId} {world : World Client} {α β : Type}

theorem withConnection_of_open (call : ConnectionId → Task Client α)
    (found : world.backend.connectionOf? session = some connection) :
    Client.withConnection (some session) call world = call connection world := by
  have looked : Task.read (fun world : World Client => world.backend.connectionOf? session) world =
      (.done (some connection), world) := by
    rw [← found]
    rfl
  unfold Client.withConnection
  dsimp only
  rw [Task.bind_of_done looked]

theorem bind_eq_of_run {task other : Task Client α} (same : task world = other world)
    (next : α → Task Client β) : (task >>= next) world = (other >>= next) world := by
  rw [Task.bind_apply, Task.bind_apply, same]

theorem tells_ofExcept (allowed : Message → Prop) (result : Except Error α) :
    Tells connection allowed (Task.ofExcept result) := by
  cases result with
  | error error => exact tells_of_silent fun world => spoke_nil world.backend
  | ok value => exact tells_of_silent fun world => spoke_nil world.backend

/-- A statement runs on the connection of its session, and the session keeps it. -/
theorem spoke_of_statement {request : Request} (statement : ¬ request.Finishes)
    (found : world.backend.connectionOf? session = some connection) :
    ∃ entries, Spoke connection entries world.backend
        ((request.call session).run world).2.backend ∧
      ∀ entry ∈ entries, request.Allows entry.message := by
  cases request with
  | query sql args =>
    have direct := withConnection_of_open
      (fun connection => Client.prepared connection sql args) found
    have whole : (Request.call session (.query sql args)).run world = _ :=
      bind_eq_of_run (bind_eq_of_run direct _) _
    rw [whole]
    refine Tells.bind (Tells.bind (tells_prepared sql args) fun reply => ?_) (fun _ => ?_) world
    · exact tells_ofExcept _ _
    · exact tells_of_silent fun world => spoke_nil world.backend
  | execute sql args =>
    have direct := withConnection_of_open
      (fun connection => Client.prepared connection sql args) found
    have whole : (Request.call session (.execute sql args)).run world = _ :=
      bind_eq_of_run (bind_eq_of_run direct _) _
    rw [whole]
    refine Tells.bind (Tells.bind (tells_prepared sql args) fun reply => ?_) (fun _ => ?_) world
    · exact tells_of_silent fun world => spoke_nil world.backend
    · exact tells_of_silent fun world => spoke_nil world.backend
  | commit => exact absurd (.inl rfl) statement
  | rollback => exact absurd (.inl rfl) statement
  | drop => exact absurd (.inr rfl) statement

/-- A session has given up its connection. -/
structure Parted (session : SessionId) (connection : ConnectionId) (entries : List Traffic)
    (pool : ConnectionPool) (before after : Client) : Prop where
  pool : after.pool = pool
  sessions : after.sessions = before.sessions.set session none
  traffic : after.server.traffic = before.server.traffic ++ entries.map (connection, ·)

/-- The connection goes back to the pool when the server accepts the statement, and leaves it when
the server refuses the statement. -/
theorem finish_of_open (sql : String)
    (found : world.backend.connectionOf? session = some connection) :
    (world.backend.server.simpleFaults.lookup sql = none ∧
      (Client.finish session sql world).1 = .done () ∧
      Parted session connection [.sent (.simple sql), .accepted (.simple sql)]
        (world.backend.pool.release connection) world.backend
        (Client.finish session sql world).2.backend) ∨
    (∃ fault, world.backend.server.simpleFaults.lookup sql = some fault ∧
      (Client.finish session sql world).1 = .failed fault.error ∧
      Parted session connection [.sent (.simple sql), .refused (.simple sql)]
        world.backend.pool.detach world.backend (Client.finish session sql world).2.backend) ∨
    ∃ depth error, (Client.finish session sql world).1 = .overtaken depth error := by
  obtain ⟨between, answer, sent, back, answered⟩ :=
    simple_cases connection (Client.takeConnection session world).2 sql
  unfold Client.finish
  rw [takeConnection_bind, found]
  dsimp only
  cases run : Client.simple connection sql (Client.takeConnection session world).2 with
  | mk ending after =>
    rw [run] at back answered
    have spoke := sent.trans back
    rw [Task.settle_of_run run]
    cases answered with
    | accepted willing =>
      refine .inl ⟨willing, rfl, ?_, spoke.sessions, spoke.traffic⟩
      exact congrArg (·.release connection) spoke.pool
    | @refused fault faulty =>
      refine .inr (.inl ⟨fault, faulty, rfl, ?_, spoke.sessions, spoke.traffic⟩)
      exact congrArg ConnectionPool.detach spoke.pool
    | @abandoned depth error => exact .inr (.inr ⟨depth, error, rfl⟩)

theorem discardSession_of_open (found : world.backend.connectionOf? session = some connection) :
    (Client.discardSession session world).1 = .done () ∧
      Parted session connection [] world.backend.pool.detach world.backend
        (Client.discardSession session world).2.backend := by
  unfold Client.discardSession
  rw [takeConnection_bind, found]
  exact ⟨rfl, rfl, rfl, (List.append_nil _).symm⟩

theorem Parted.connectionOf? {entries : List Traffic} {pool : ConnectionPool}
    {before after : Client} (parted : Parted session connection entries pool before after) :
    after.connectionOf? session = none := by
  rw [Client.connectionOf?, parted.sessions, List.getElem?_set_self']
  cases before.sessions[session]? <;> rfl

end Open

/-- A COMMIT or a ROLLBACK of the session's own is sent. -/
def Traffic.closes : Traffic → Bool
  | .sent (.simple sql) => sql = "COMMIT" || sql = "ROLLBACK"
  | _ => false

theorem closes_eq_false_of_carries {sql : String} {entry : Traffic}
    (carries : entry.message.Carries sql) : entry.closes = false := by
  cases entry with
  | sent message =>
    rcases carries with same | ⟨parameters, same⟩
    · have prepared : message = .prepare sql := same
      rw [prepared]
      rfl
    · have bound : message = .bind parameters := same
      rw [bound]
      rfl
  | _ => rfl

/-- A request, and the world in which it was made. -/
structure Visit where
  request : Request
  before : World Client

namespace Visit

variable (session : SessionId) (connection : ConnectionId) (visit : Visit)

def ending : Ending Unit := ((visit.request.call session).run visit.before).1

def after : World Client := ((visit.request.call session).run visit.before).2

/-- A request that is run to its end succeeds or fails. -/
def Completed : Prop :=
  visit.ending session = .done () ∨ ∃ error, visit.ending session = .failed error

/-- What has gone over all connections meanwhile. -/
def traffic : List (ConnectionId × Traffic) :=
  (visit.after session).backend.server.traffic.drop visit.before.backend.server.traffic.length

/-- All traffic is about the request, on one connection, and finishes the transaction at most so
often. -/
structure Heard (limit : Nat) : Prop where
  own : ∀ entry ∈ visit.traffic session,
    entry.1 = connection ∧ visit.request.Allows entry.2.message
  closings : ((visit.traffic session).filter (·.2.closes)).length ≤ limit

/-- A statement: the session keeps its connection. -/
structure Stays : Prop extends visit.Heard session connection 0 where
  statement : ¬ visit.request.Finishes
  slot : (visit.after session).backend.connectionOf? session = some connection
  pool : (visit.after session).backend.pool = visit.before.backend.pool

/-- The finishing statement has been sent, and the server, which has no fault for it, has accepted
it. -/
def Accepted : Prop :=
  ∃ sql, visit.request.closing? = some sql ∧
    visit.before.backend.server.simpleFaults.lookup sql = none ∧
    visit.traffic session =
      [Traffic.sent (.simple sql), .accepted (.simple sql)].map (connection, ·)

/-- What becomes of the connection of a session at its end. The answer of the server decides: the
connection goes back to the pool when the finishing statement is accepted, and leaves it when the
statement is refused. Without a finishing statement it leaves the pool as well. -/
inductive GivesUp : Prop where
  | accepted (sql : String) (closing : visit.request.closing? = some sql)
      (willing : visit.before.backend.server.simpleFaults.lookup sql = none)
      (traffic : visit.traffic session =
        [Traffic.sent (.simple sql), .accepted (.simple sql)].map (connection, ·))
      (ending : visit.ending session = .done ())
      (pool : (visit.after session).backend.pool = visit.before.backend.pool.release connection)
  | refused (sql : String) (fault : ServerFault) (closing : visit.request.closing? = some sql)
      (faulty : visit.before.backend.server.simpleFaults.lookup sql = some fault)
      (traffic : visit.traffic session =
        [Traffic.sent (.simple sql), .refused (.simple sql)].map (connection, ·))
      (ending : visit.ending session = .failed fault.error)
      (pool : (visit.after session).backend.pool = visit.before.backend.pool.detach)
  | dropped (request : visit.request = .drop) (traffic : visit.traffic session = [])
      (ending : visit.ending session = .done ())
      (pool : (visit.after session).backend.pool = visit.before.backend.pool.detach)

/-- The end of a session with a connection: the session is without it from now on. -/
structure Parts : Prop where
  givesUp : visit.GivesUp session connection
  slot : (visit.after session).backend.connectionOf? session = none

/-- A request behind the end: nothing happens. -/
structure Vain : Prop where
  ending : visit.ending session = visit.request.vain
  after : visit.after session = visit.before

variable {session connection visit}

theorem traffic_of_appended {entries : List Traffic}
    (appended : (visit.after session).backend.server.traffic =
      visit.before.backend.server.traffic ++ entries.map (connection, ·)) :
    visit.traffic session = entries.map (connection, ·) := by
  rw [Visit.traffic, appended, List.drop_left]

theorem heard {entries : List Traffic} {limit : Nat}
    (traffic : visit.traffic session = entries.map (connection, ·))
    (allowed : ∀ entry ∈ entries, visit.request.Allows entry.message)
    (closings : (entries.filter Traffic.closes).length ≤ limit) :
    visit.Heard session connection limit := by
  refine ⟨?_, ?_⟩
  · rw [traffic]
    intro entry member
    obtain ⟨inner, here, rfl⟩ := List.mem_map.mp member
    exact ⟨rfl, allowed inner here⟩
  · rw [traffic, List.filter_map, List.length_map]
    exact closings

/-- A COMMIT or ROLLBACK and its answer are all that is heard at the end. -/
theorem heard_of_closing {sql : String} {answer : Traffic}
    (closing : visit.request.closing? = some sql) (answers : answer.Answers (.simple sql))
    (traffic : visit.traffic session =
      [Traffic.sent (.simple sql), answer].map (connection, ·)) :
    visit.Heard session connection 1 := by
  have allowed := Request.allows_of_closing closing
  have once := List.length_filter_le Traffic.closes [.sent (.simple sql)]
  rcases answers with rfl | rfl
  · exact heard traffic (by simp [Traffic.message, allowed]) once
  · exact heard traffic (by simp [Traffic.message, allowed]) once

namespace GivesUp

theorem finishes (givesUp : visit.GivesUp session connection) : visit.request.Finishes := by
  cases givesUp with
  | accepted sql closing => exact .inl (by rw [closing]; rfl)
  | refused sql fault closing => exact .inl (by rw [closing]; rfl)
  | dropped request => exact .inr request

theorem heard (givesUp : visit.GivesUp session connection) : visit.Heard session connection 1 := by
  cases givesUp with
  | accepted sql closing willing traffic => exact heard_of_closing closing (.inl rfl) traffic
  | refused sql fault closing faulty traffic => exact heard_of_closing closing (.inr rfl) traffic
  | dropped request traffic =>
    refine ⟨?_, ?_⟩
    · rw [traffic]
      exact nofun
    · rw [traffic]
      exact Nat.zero_le 1

/-- The connection goes back to the pool exactly when the server accepts the end. -/
theorem released_iff (givesUp : visit.GivesUp session connection) :
    (visit.after session).backend.pool = visit.before.backend.pool.release connection ↔
      visit.Accepted session connection := by
  have distinct := visit.before.backend.pool.release_ne_detach connection
  constructor
  · intro released
    cases givesUp with
    | accepted sql closing willing traffic => exact ⟨sql, closing, willing, traffic⟩
    | refused sql fault closing faulty traffic ending detached =>
      exact absurd (released.symm.trans detached) distinct
    | dropped request traffic ending detached =>
      exact absurd (released.symm.trans detached) distinct
  · rintro ⟨sql, closing, willing, accepted⟩
    cases givesUp with
    | accepted sql closing willing traffic ending pool => exact pool
    | refused other fault closing faulty traffic => cases traffic.symm.trans accepted
    | dropped request traffic => cases traffic.symm.trans accepted

end GivesUp

theorem stays (found : visit.before.backend.connectionOf? session = some connection)
    (statement : ¬ visit.request.Finishes) : visit.Stays session connection := by
  obtain ⟨entries, spoke, allowed⟩ := spoke_of_statement statement found
  have silent : entries.filter Traffic.closes = [] := by
    apply List.filter_eq_nil_iff.mpr
    intro entry member closes
    obtain ⟨sql, carries⟩ := Request.carries_of_allows statement (allowed entry member)
    rw [closes_eq_false_of_carries carries] at closes
    cases closes
  have traffic := traffic_of_appended spoke.traffic
  refine ⟨heard traffic allowed (by simp [silent]), statement, ?_, spoke.pool⟩
  have kept : (visit.after session).backend.sessions = visit.before.backend.sessions :=
    spoke.sessions
  rw [Client.connectionOf?, kept]
  exact found

theorem parts_of_closing {sql : String}
    (found : visit.before.backend.connectionOf? session = some connection)
    (closing : visit.request.closing? = some sql) (completed : visit.Completed session) :
    visit.Parts session connection := by
  have run : (visit.request.call session).run visit.before =
      Client.finish session sql visit.before := by rw [Request.run_of_closing session closing]
  rcases finish_of_open sql found with ⟨willing, done, parted⟩ | ⟨fault, faulty, failed, parted⟩ |
      ⟨depth, error, overtaken⟩
  · rw [← run] at done parted
    have traffic := traffic_of_appended parted.traffic
    exact ⟨.accepted sql closing willing traffic done parted.pool, parted.connectionOf?⟩
  · rw [← run] at failed parted
    have traffic := traffic_of_appended parted.traffic
    exact ⟨.refused sql fault closing faulty traffic failed parted.pool, parted.connectionOf?⟩
  · rw [← run] at overtaken
    rcases completed with done | ⟨error, failed⟩
    · cases overtaken.symm.trans done
    · cases overtaken.symm.trans failed

theorem parts (found : visit.before.backend.connectionOf? session = some connection)
    (finishes : visit.request.Finishes) (completed : visit.Completed session) :
    visit.Parts session connection := by
  rcases finishes with closing | dropped
  · obtain ⟨sql, closing⟩ := Option.isSome_iff_exists.mp closing
    exact parts_of_closing found closing completed
  · have run : (visit.request.call session).run visit.before =
        Client.discardSession session visit.before := by
      rw [dropped]
      rfl
    obtain ⟨done, parted⟩ := discardSession_of_open found
    rw [← run] at done parted
    have traffic := traffic_of_appended parted.traffic
    exact ⟨.dropped dropped traffic done parted.pool, parted.connectionOf?⟩

theorem vain (finished : visit.before.backend.connectionOf? session = none) :
    visit.Vain session := by
  have run := run_of_finished visit.request finished
  exact ⟨congrArg Prod.fst run, congrArg Prod.snd run⟩

end Visit

/-- Requests to a session, one behind the other, each run to its end. Others may do what they like
in between, except that the connection of the session is its own. -/
inductive Life (session : SessionId) : Option ConnectionId → List Visit → Prop where
  | nil (connection? : Option ConnectionId) : Life session connection? []
  | cons {connection? : Option ConnectionId} {visit : Visit} {rest : List Visit}
      (found : visit.before.backend.connectionOf? session = connection?)
      (completed : visit.Completed session)
      (behind : Life session ((visit.after session).backend.connectionOf? session) rest) :
      Life session connection? (visit :: rest)

section Lives

variable {session : SessionId} {connection : ConnectionId} {connection? : Option ConnectionId}
variable {visits : List Visit}

theorem Visit.Vain.traffic_eq {visit : Visit} (vain : visit.Vain session) :
    visit.traffic session = [] := by
  rw [Visit.traffic, vain.after, List.drop_length]

/-- Without a connection the rest of a life is in vain. -/
theorem Life.vain (life : Life session none visits) : ∀ visit ∈ visits, visit.Vain session := by
  induction visits with
  | nil => exact nofun
  | cons visit rest ih =>
    cases life with
    | cons found completed behind =>
      have here := Visit.vain found
      rw [here.after, found] at behind
      exact List.forall_mem_cons.mpr ⟨here, ih behind⟩

theorem Life.suffix {before rest : List Visit} (life : Life session connection? (before ++ rest)) :
    ∃ found?, Life session found? rest := by
  induction before generalizing connection? with
  | nil => exact ⟨connection?, life⟩
  | cons visit more ih =>
    cases life with
    | cons found completed behind => exact ih behind

/-- Behind a request that finishes the session the rest is in vain. -/
theorem Life.vain_behind {visit : Visit} {rest : List Visit}
    (life : Life session connection? (visit :: rest)) (finishes : visit.request.Finishes) :
    ∀ other ∈ rest, other.Vain session := by
  cases life with
  | cons found completed behind =>
    have gone : (visit.after session).backend.connectionOf? session = none := by
      cases connection? with
      | none =>
        rw [(Visit.vain found).after]
        exact found
      | some connection => exact (Visit.parts found finishes completed).slot
    rw [gone] at behind
    exact behind.vain

/-- A life with an end has statements first, one parting and nothing behind it. -/
theorem Life.parting (life : Life session (some connection) visits)
    (ends : ∃ visit ∈ visits, visit.request.Finishes) :
    ∃ before parting later, visits = before ++ parting :: later ∧
      (∀ visit ∈ before, visit.Stays session connection) ∧ parting.Parts session connection ∧
      ∀ visit ∈ later, visit.Vain session := by
  induction visits with
  | nil => exact absurd ends (by simp)
  | cons visit rest ih =>
    by_cases finishes : visit.request.Finishes
    · have behind := life.vain_behind finishes
      cases life with
      | cons found completed _ =>
        exact ⟨[], visit, rest, rfl, nofun, Visit.parts found finishes completed, behind⟩
    · cases life with
      | cons found completed behind =>
        have here := Visit.stays found finishes
        have later : ∃ other ∈ rest, other.request.Finishes := by
          obtain ⟨other, member, last⟩ := ends
          rcases List.mem_cons.mp member with rfl | inside
          · exact absurd last finishes
          · exact ⟨other, inside, last⟩
        rw [here.slot] at behind
        obtain ⟨before, parting, after, rfl, staying, parts, vain⟩ := ih behind later
        exact ⟨visit :: before, parting, after, rfl, List.forall_mem_cons.mpr ⟨here, staying⟩,
          parts, vain⟩

theorem filter_closes_eq_nil {visits : List Visit}
    (silent : ∀ visit ∈ visits, ((visit.traffic session).filter (·.2.closes)).length ≤ 0) :
    (visits.flatMap (·.traffic session)).filter (·.2.closes) = [] := by
  rw [List.filter_flatMap, List.flatMap_eq_nil_iff]
  intro visit member
  exact List.eq_nil_of_length_eq_zero (Nat.le_zero.mp (silent visit member))

end Lives

/-- The life of a session from the connection that it was opened with to its end. -/
structure Concluded (session : SessionId) (connection : ConnectionId) (visits : List Visit) :
    Prop where
  /-- All that is said is a statement of a caller or finishes the transaction, and is said on the
  connection of the session. -/
  own : ∀ visit ∈ visits, ∀ entry ∈ visit.traffic session,
    entry.1 = connection ∧ visit.request.Allows entry.2.message
  /-- At most one COMMIT or ROLLBACK is sent. -/
  closings : ((visits.flatMap (·.traffic session)).filter (·.2.closes)).length ≤ 1
  /-- What comes behind a commit, a rollback or a drop is refused, and nothing happens. -/
  refused : ∀ before visit later, visits = before ++ visit :: later → visit.request.Finishes →
    ∀ other ∈ later, other.after session = other.before ∧
      (other.request ≠ .drop → other.ending session = .failed .sessionFinished)
  /-- The connection is given up once, by the first of them, and goes back to the pool exactly when
  the server accepts the COMMIT or ROLLBACK. -/
  released : ∃ before parting later, visits = before ++ parting :: later ∧
    (∀ other ∈ before, ¬ other.request.Finishes) ∧ parting.request.Finishes ∧
    parting.GivesUp session connection ∧
    ((parting.after session).backend.pool = parting.before.backend.pool.release connection ↔
      parting.Accepted session connection) ∧
    ∀ other ∈ before ++ later, (other.after session).backend.pool = other.before.backend.pool

/-- Whatever is asked of a session and whatever the server makes of it, its connection is given up
exactly once. -/
theorem sessions_end_once {session : SessionId} {connection : ConnectionId} {visits : List Visit}
    {last : Visit} (life : Life session (some connection) (visits ++ [last]))
    (dropped : last.request = .drop) : Concluded session connection (visits ++ [last]) := by
  have ends : ∃ visit ∈ visits ++ [last], visit.request.Finishes :=
    ⟨last, List.mem_append_right _ List.mem_cons_self, .inr dropped⟩
  obtain ⟨before, parting, later, split, staying, parts, vain⟩ := life.parting ends
  refine ⟨?_, ?_, ?_, ?_⟩
  · rw [split]
    intro visit member
    rcases List.mem_append.mp member with early | late
    · exact (staying visit early).own
    · rcases List.mem_cons.mp late with rfl | behind
      · exact parts.givesUp.heard.own
      · rw [(vain visit behind).traffic_eq]
        exact nofun
  · have early := filter_closes_eq_nil fun visit member => (staying visit member).closings
    have late := @filter_closes_eq_nil session later fun visit member => by
      rw [(vain visit member).traffic_eq]
      exact Nat.le_refl 0
    rw [split]
    simpa [early, late] using parts.givesUp.heard.closings
  · intro front visit behind whole finishes other member
    rw [whole] at life
    obtain ⟨found?, rest⟩ := life.suffix
    have idle := rest.vain_behind finishes other member
    exact ⟨idle.after, fun kept => idle.ending.trans (Request.vain_of_ne_drop kept)⟩
  · refine ⟨before, parting, later, split, fun other member => (staying other member).statement,
      parts.givesUp.finishes, parts.givesUp, parts.givesUp.released_iff, ?_⟩
    intro other member
    rcases List.mem_append.mp member with early | late
    · exact (staying other early).pool
    · rw [(vain other late).after]

/-- Requests one behind the other with nothing in between. -/
def Visit.runAll (session : SessionId) (world : World Client) : List Request → List Visit
  | [] => []
  | request :: rest =>
    ⟨request, world⟩ :: runAll session (Visit.after session ⟨request, world⟩) rest

/-- A pool of one connection with a transaction open on it. -/
def opened : World Client := (Call.begin.run (World.start (Client.start 1))).2

/-- A statement, its COMMIT, and what is asked of the session behind it. -/
def committed : List Visit :=
  Visit.runAll 0 opened
    [.execute "DELETE FROM t" [], .commit, .query "SELECT 1" [], .rollback, .drop]

theorem sessions_end_once_committed :
    Concluded 0 1 committed ∧
      committed.map (fun visit => visit.before.backend.pool.idle) = [[], [], [1], [1], [1]] ∧
      (committed.flatMap (·.traffic 0)).drop 4 =
        [(1, .sent (.simple "COMMIT")), (1, .accepted (.simple "COMMIT"))] := by
  have life : Life 0 (some 1) committed :=
    .cons rfl (.inl rfl) (.cons rfl (.inl rfl) (.cons rfl (.inr ⟨_, rfl⟩)
      (.cons rfl (.inr ⟨_, rfl⟩) (.cons rfl (.inl rfl) (.nil _)))))
  exact ⟨@sessions_end_once 0 1 (Visit.runAll 0 opened
    [.execute "DELETE FROM t" [], .commit, .query "SELECT 1" [], .rollback]) _ life rfl, rfl, rfl⟩

end FluentSql.Postgres
