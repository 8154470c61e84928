import FluentSql.Backend.Recorder
import FluentSql.Postgres.Client
import FluentSql.Script.Reader
import FluentSql.Script.Values

/-! Backends that scripts set up: what they are told before a step, and what they tell after it. -/
namespace FluentSql.Script
open Postgres

class Staged (σ : Type) extends Backend σ where
  /-- Take what a step says about the backend. -/
  load : Json → σ → Reading σ
  calls : σ → List Json
  clearCalls : σ → σ
  /-- Transactions committed, rolled back and given up. -/
  counts : σ → List Nat
  visible : σ → List String

private def message? (json : Json) : Option String :=
  match given? json "error" with
  | some (.string message) => some message
  | _ => none

private def scripted (read : Json → Reading α) (json : Json) : Reading (Except String α) := do
  match message? json with
  | some message => pure (.error message)
  | none => pure (.ok (← read json))

private def resultSet (json : Json) : Reading (List Row) :=
  listOf (fun row => Row.ofPairs <$> pairs row) json

private def writeResult (json : Json) : Reading WriteResult := do
  match ← list json with
  | [rows, .null] => pure ⟨← uint64 rows, none⟩
  | [rows, id] => pure ⟨← uint64 rows, some (← int64 id)⟩
  | _ => .error ("write result " ++ json.print)

private def poolCall : String → Reading PoolCall
  | "ping" => .ok .ping
  | "begin" => .ok .begin
  | "commit" => .ok .commit
  | "rollback" => .ok .rollback
  | other => .error ("pool call " ++ other)

private def members (json : Json) (name : String) : List (String × Json) :=
  match given? json name with
  | some (.object members) => members
  | _ => []

instance : Staged Recorder where
  load step recorder := do
    let rows ← listOr (scripted resultSet) step "rows"
    let results ← listOr (scripted writeResult) step "exec"
    let delay ← match given? step "delay_ms" with
      | some span => Duration.ofMilliseconds <$> nat span
      | none => pure recorder.delay
    let failures ← (members step "fail").mapM fun entry => do
      pure (← poolCall entry.1, ← string entry.2)
    pure { recorder with
      rows := recorder.rows ++ rows
      results := recorder.results ++ results
      delay := delay
      failures := failures ++ recorder.failures }
  calls recorder := recorder.calls.map fun call => object [("sql", .string call.sql),
    ("args", valuesJson call.args), ("tx", .bool call.session?.isSome)]
  clearCalls recorder := { recorder with calls := [] }
  counts recorder := [recorder.commits, recorder.rollbacks, recorder.discarded]
  visible := Recorder.visible

/-- A type by its name; arrays are named for what they hold. -/
def wireType (json : Json) : Reading WireType := do
  let name ← string json
  match name.toList.reverse with
  | 'y' :: 'a' :: 'r' :: 'r' :: 'a' :: '_' :: rest =>
    pure (.other ("_" ++ String.ofList rest.reverse))
  | _ => pure (WireType.ofLabel name)

private def cell : Json → Reading (Option Bytes)
  | .null => .ok none
  | content => do
    some <$> required "bytes" (Text.readHexBytes (← string content).toList)

def cellJson : Option Bytes → Json
  | some bytes => .string (Text.hexBytes bytes)
  | none => .null

private def serverFault (json : Json) : Reading ServerFault := do
  pure ⟨← string (← member json "code"), ← stringOr json "message" ""⟩

private def fault? (json : Json) (name : String) : Reading (Option ServerFault) := do
  match given? json name with
  | some fault => some <$> serverFault fault
  | none => pure none

private def columnHead (json : Json) : Reading ColumnHead := do
  match ← list json with
  | [name, type] => pure (← string name, ← wireType type)
  | _ => .error ("column " ++ json.print)

private def reply (json : Json) : Reading Reply := do
  pure {
    parameters := ← listOr wireType json "params"
    columns := ← listOr columnHead json "columns"
    rows := ← listOr (listOf cell) json "rows"
    tag := ← stringOr json "tag" Reply.blank.tag
    parseFault? := ← fault? json "parse_error"
    executeFault? := ← fault? json "exec_error" }

private def messageJson (seen : ConnectionId × Message) : Json :=
  let content := match seen.2 with
    | .simple sql => ("simple", Json.string sql)
    | .prepare sql => ("prepare", Json.string sql)
    | .bind parameters => ("bind", Json.array (parameters.map cellJson))
  object [("conn", natural seen.1), content]

instance : Staged Client where
  load step client := do
    let replies ← listOr reply step "replies"
    let faults ← (members step "simple_error").mapM fun entry => do
      pure (entry.1, ← serverFault entry.2)
    let refused? ← fault? step "connect_error"
    let server := client.server
    pure { client with server := { server with
      replies := server.replies ++ replies
      simpleFaults := faults ++ server.simpleFaults.filter fun present =>
        !faults.any fun fault => fault.1 = present.1
      connectFault? := refused?.or server.connectFault? } }
  calls client := client.server.seen.map messageJson
  clearCalls client := { client with server := { client.server with traffic := [] } }
  counts _ := [0, 0, 0]
  visible _ := []

end FluentSql.Script
