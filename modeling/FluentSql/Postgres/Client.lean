import FluentSql.Backend
import FluentSql.Postgres.Server

/-! A pool of PostgreSQL connections as a backend. A transaction holds a connection of its own. The
connection goes back to the pool when the server has acknowledged the end of the transaction, and is
kept out of the pool when the end fails or the transaction is dropped open. -/
namespace FluentSql.Postgres

structure Client where
  pool : ConnectionPool
  /-- The connection of every session by its number, none once it is finished. -/
  sessions : List (Option ConnectionId)
  server : Server
  deriving DecidableEq

namespace Client

def start (maxSize : Nat) : Client := ⟨.empty maxSize, [], .idle⟩

def onServer (step : Server → α × Server) : Task Client α :=
  Task.onBackend fun client =>
    let (value, server) := step client.server
    (value, { client with server := server })

def onPool (change : ConnectionPool → ConnectionPool) : Task Client Unit :=
  Task.onBackend fun client => ((), { client with pool := change client.pool })

/-- The pool after a call on a connection. -/
def afterwards (change : ConnectionPool → ConnectionPool) (world : World Client) :
    World Client :=
  { world with backend := { world.backend with pool := change world.backend.pool } }

/-- An idle connection, or else a new one. When the pool is exhausted the caller waits. -/
def acquire : Task Client ConnectionId := do
  match ← Task.read fun world => world.backend.pool.supply with
  | .reuse connection =>
    onPool ConnectionPool.lend
    pure connection
  | .openNew connection =>
    match ← onServer Server.takeConnectFault with
    | some _ =>
      onPool ConnectionPool.addRefused
      Task.fail .connectionRefused
    | none =>
      onPool ConnectionPool.addOpened
      pure connection
  | .exhausted =>
    Task.waitUntil none
    pure 0

def note (connection : ConnectionId) (entry : Traffic) : Task Client Unit :=
  onServer fun server => ((), server.note connection entry)

/-- Send a message and wait for the answer. -/
def exchange (connection : ConnectionId) (message : Message) : Task Client Unit := do
  note connection (.sent message)
  Task.wait (← Task.read fun world => world.backend.server.latency)

/-- The answer to a message, which fails with the server's fault if there is one. -/
def answer (connection : ConnectionId) (message : Message) :
    Option ServerFault → Task Client Unit
  | some fault => do
    note connection (.refused message)
    Task.fail fault.error
  | none => note connection (.accepted message)

/-- A statement without parameters and without a result. -/
def simple (connection : ConnectionId) (sql : String) : Task Client Unit := do
  exchange connection (.simple sql)
  answer connection (.simple sql) (← onServer fun server => server.takeSimpleFault sql)

/-- Prepare a statement, bind its arguments and run it. -/
def prepared (connection : ConnectionId) (sql : String) (args : List Value) :
    Task Client Reply := do
  exchange connection (.prepare sql)
  let reply ← onServer Server.takeReply
  answer connection (.prepare sql) reply.parseFault?
  match reply.bind args with
  | .error fault => Task.fail (.query fault)
  | .ok parameters =>
    exchange connection (.bind parameters)
    answer connection (.bind parameters) reply.executeFault?
    pure reply

/-- A connection for one call, which goes back to the pool however the call ends. -/
def borrow (call : ConnectionId → Task Client α) : Task Client α := do
  let connection ← acquire
  (call connection).settle fun _ => afterwards (·.release connection)

def connectionOf? (client : Client) (session : SessionId) : Option ConnectionId :=
  client.sessions[session]?.join

/-- Statements of a transaction run on its connection, all others on one from the pool. -/
def withConnection (session? : Option SessionId) (call : ConnectionId → Task Client α) :
    Task Client α := do
  match session? with
  | none => borrow call
  | some session =>
    match ← Task.read fun world => world.backend.connectionOf? session with
    | some connection => call connection
    | none => Task.fail .sessionFinished

/-- The connection of a session, which is finished from now on. -/
def takeConnection (session : SessionId) : Task Client (Option ConnectionId) :=
  Task.onBackend fun client =>
    (client.connectionOf? session, { client with sessions := client.sessions.set session none })

/-- Open a transaction on a connection of its own. When it does not open, the connection goes
back. -/
def openSession : Task Client SessionId := do
  let connection ← acquire
  (simple connection "BEGIN").settle fun ending world =>
    if ending.isDone then world else afterwards (·.release connection) world
  Task.onBackend fun client =>
    (client.sessions.length, { client with sessions := client.sessions ++ [some connection] })

/-- End a transaction. A connection whose last statement failed is in no known state and leaves the
pool. -/
def finish (session : SessionId) (sql : String) : Task Client Unit := do
  match ← takeConnection session with
  | none => Task.fail .sessionFinished
  | some connection =>
    (simple connection sql).settle fun ending =>
      match ending with
      | .failed _ => afterwards ConnectionPool.detach
      | _ => afterwards (·.release connection)

def discardSession (session : SessionId) : Task Client Unit := do
  match ← takeConnection session with
  | none => pure ()
  | some _ =>
    Task.report .connectionDetached
    onPool ConnectionPool.detach

instance : Backend Client where
  query session? sql args := do
    let reply ← withConnection session? fun connection => prepared connection sql args
    Task.ofExcept (reply.rows.mapM (decodeRow reply.columns))
  execute session? sql args := do
    let reply ← withConnection session? fun connection => prepared connection sql args
    pure ⟨reply.rowsAffected, none⟩
  ping := borrow fun connection => simple connection "SELECT 1"
  begin := openSession
  commit session := finish session "COMMIT"
  rollback session := finish session "ROLLBACK"
  discard := discardSession

end Client
end FluentSql.Postgres
