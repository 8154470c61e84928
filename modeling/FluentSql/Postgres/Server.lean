import FluentSql.Postgres.Decode
import FluentSql.Postgres.Encode
import FluentSql.Postgres.Pool

/-! A PostgreSQL server that answers from a script. It sees every message and interprets none. -/
namespace FluentSql.Postgres

structure ServerFault where
  code : String
  message : String
  deriving DecidableEq

def ServerFault.error (fault : ServerFault) : Error := .query (.server fault.code)

/-- The answer to one prepared statement. -/
structure Reply where
  parameters : List WireType
  columns : List ColumnHead
  rows : List (List (Option Bytes))
  tag : String
  parseFault? : Option ServerFault
  executeFault? : Option ServerFault
  deriving DecidableEq

def Reply.blank : Reply := ⟨[], [], [], "OK", none, none⟩

/-- The number after the last blank of a command tag, zero where there is none. -/
def Reply.rowsAffected (reply : Reply) : UInt64 :=
  let word := (reply.tag.toList.reverse.takeWhile (· ≠ ' ')).reverse
  match word.head?, Text.readInt word with
  | some '-', _ => 0
  | _, some count =>
    if 0 ≤ count ∧ count < 18446744073709551616 then UInt64.ofNat count.toNat else 0
  | _, none => 0

inductive Message where
  | simple (sql : String)
  | prepare (sql : String)
  | bind (parameters : List (Option Bytes))
  deriving DecidableEq

/-- What goes over a connection: messages, and what the server makes of them. -/
inductive Traffic where
  | sent (message : Message)
  | accepted (message : Message)
  | refused (message : Message)
  deriving DecidableEq

structure Server where
  replies : List Reply
  /-- Simple statements whose next run fails. -/
  simpleFaults : List (String × ServerFault)
  /-- The fault with which the next new connection is refused. -/
  connectFault? : Option ServerFault
  /-- The time that every answer takes. -/
  latency : Duration
  /-- What went over all connections, in order. -/
  traffic : List (ConnectionId × Traffic)
  deriving DecidableEq

namespace Server

def idle : Server := ⟨[], [], none, ⟨0⟩, []⟩

def note (server : Server) (connection : ConnectionId) (entry : Traffic) : Server :=
  { server with traffic := server.traffic ++ [(connection, entry)] }

/-- The messages in the order in which they came, each with its connection. -/
def seen (server : Server) : List (ConnectionId × Message) :=
  server.traffic.filterMap fun entry =>
    match entry.2 with
    | .sent message => some (entry.1, message)
    | _ => none

def takeReply (server : Server) : Reply × Server :=
  match server.replies with
  | [] => (.blank, server)
  | reply :: rest => (reply, { server with replies := rest })

def takeSimpleFault (server : Server) (sql : String) : Option ServerFault × Server :=
  match server.simpleFaults.lookup sql with
  | some fault =>
    (some fault, { server with simpleFaults := server.simpleFaults.filter (·.1 ≠ sql) })
  | none => (none, server)

def takeConnectFault (server : Server) : Option ServerFault × Server :=
  (server.connectFault?, { server with connectFault? := none })

end Server

/-- Arguments as the parameters of a reply; one that does not go to its parameter is named by its
place. -/
def encodeAll : (index : Nat) → List WireType → List Value → Except QueryFault (List (Option Bytes))
  | index, type :: types, value :: values =>
    match encode type value with
    | .ok bytes => do pure (bytes :: (← encodeAll (index + 1) types values))
    | .error _ => .error (.parameter index)
  | _, _, _ => .ok []

/-- As many arguments as there are parameters, each in its form on the wire. -/
def Reply.bind (reply : Reply) (args : List Value) : Except QueryFault (List (Option Bytes)) :=
  if reply.parameters.length ≠ args.length then
    .error (.parameterCount reply.parameters.length args.length)
  else encodeAll 0 reply.parameters args

end FluentSql.Postgres
