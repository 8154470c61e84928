import FluentSql.Handles
import FluentSql.Script.Calls
import FluentSql.Script.Stages

/-! Sessions in scripts: steps on one database, with the contexts and transactions that they
name. -/
namespace FluentSql.Script

/-- A backend beside the notes that a body takes while it runs. They stay when the body is ended. -/
structure Noted (σ : Type) where
  backend : σ
  notes : List Json

namespace Noted

def lift (task : Task σ α) : Task (Noted σ) α := fun world =>
  let inner : World σ := ⟨world.clock, world.guards, world.sessions, world.cache, world.log,
    world.backend.backend⟩
  let (ending, after) := task inner
  (ending, ⟨after.clock, after.guards, after.sessions, after.cache, after.log,
    ⟨after.backend, world.backend.notes⟩⟩)

instance [Backend σ] : Backend (Noted σ) where
  query session? sql args := lift (Backend.query session? sql args)
  execute session? sql args := lift (Backend.execute session? sql args)
  ping := lift Backend.ping
  begin := lift Backend.begin
  commit session := lift (Backend.commit session)
  rollback session := lift (Backend.rollback session)
  discard session := lift (Backend.discard session)

def note (content : Json) : Task (Noted σ) Unit :=
  Task.onBackend fun noted => ((), { noted with notes := noted.notes ++ [content] })

end Noted

structure Session (σ : Type) where
  database : Database
  world : World (Noted σ)
  contexts : Entries Context
  cancellers : Entries SignalId
  transactions : Entries Transaction

namespace Session

variable {σ : Type} [Staged σ]

def start (database : Database) (backend : σ) : Session σ :=
  ⟨database, .start ⟨backend, []⟩, [], [], []⟩

private def named (entries : List (String × α)) (json : Json) : Reading α := do
  let name ← string json
  required ("no such name: " ++ name) (Entries.find? entries name)

private def name (step : Json) : Reading String := do string (← member step "name")

def contextOf (session : Session σ) (step : Json) : Reading Context :=
  match given? step "ctx" with
  | some name => named session.contexts name
  | none => pure .background

def siteOf (session : Session σ) (step : Json) : Reading Site := do
  let connectionOf (role : String) : Reading (Option Connection) := do
    match given? step role with
    | some name => some <$> Transaction.connection <$> named session.transactions name
    | none => pure none
  let pool := session.database.connection
  let inside? ← connectionOf "tx"
  let moved? ← connectionOf "with_tx"
  pure ⟨(moved?.or inside?).getD pool, inside?.getD pool, ← session.contextOf step⟩

/-- The step of a body: its call, and whether a failure ends the body. -/
structure BodyStep (σ : Type) where
  script : Json
  call : Call (Noted σ)
  ignored : Bool
  context : Context

def bodyStep (session : Session σ) (step : Json) : Reading (BodyStep σ) := do
  match ← call step with
  | some call => pure ⟨step, call, flag step "ignore", ← session.contextOf step⟩
  | none => .error ("step " ++ step.print)

private def prepare (script : Json) : Task (Noted σ) Unit := fun world =>
  match Staged.load script world.backend.backend with
  | .ok backend => (.done (), { world with backend := { world.backend with backend := backend } })
  | .error reason => (.panicked reason, world)

/-- The steps of a body one after another; the first failure that is not ignored ends it. -/
def runBody (connection : Connection) : List (BodyStep σ) → Task (Noted σ) Unit
  | [] => pure ()
  | step :: rest => do
    prepare step.script
    let result ← (step.call ⟨connection, connection, step.context⟩).attempt
    Noted.note (object (match result with
      | .ok content => [("result", content)]
      | .error error => errorMembers error))
    match result with
    | .ok _ => runBody connection rest
    | .error error => if step.ignored then runBody connection rest else Task.fail error

private def bodyEnd : String → Task (Noted σ) Json
  | "ok" => pure (.string "done")
  | "panic" => Task.panic "boom"
  | text => Task.fail (.other text)

/-- How a call ended, as the members of an answer. -/
def endingMembers : Ending Json → Reading (List (String × Json))
  | .done content => .ok [("result", content)]
  | .failed error => .ok (errorMembers error)
  | .panicked _ => .ok [("error", .string "panic")]
  | .overtaken _ _ => .error "a context fired that is not there"
  | .stuck => .error "waits for ever"

private def outcomeJson : Ending Json → Reading Json
  | .done content => .ok content
  | .failed error => .ok (errorJson error)
  | .panicked message => .ok (object [("panic", .string message)])
  | .overtaken _ _ => .error "a context fired that is not there"
  | .stuck => .error "waits for ever"

def runTask (session : Session σ) (task : Task (Noted σ) Json) :
    Reading (List (String × Json) × Session σ) := do
  let (ending, world) := task session.world
  pure (← endingMembers ending, { session with world := world })

private def runTransaction (session : Session σ) (step : Json) :
    Reading (List (String × Json) × Session σ) := do
  let steps ← listOr session.bodyStep step "steps"
  let ending ← stringOr step "end" "ok"
  let context ← session.contextOf step
  let body (transaction : Transaction) : Task (Noted σ) Json := do
    runBody transaction.connection steps
    bodyEnd ending
  let (ending, world) := session.database.transaction context body session.world
  let result := object [("steps", .array world.backend.notes), ("outcome", ← outcomeJson ending)]
  pure ([("result", result)],
    { session with world := { world with backend := { world.backend with notes := [] } } })

private def limit (now : Instant) (json : Json) : Reading Limit := do
  match ← list json with
  | [.string "timeout", us] => pure (.timeout (.ofMicroseconds (← nat us)))
  | [.string "deadline", us] =>
    let instant : Int := now + (← int us) * 1000
    pure (.deadlineAt instant.toNat)
  | _ => .error ("limit " ++ json.print)

/-- Steps with the contexts and cancellers of the session, on its clock. -/
private def handle (session : Session σ) (steps : List Handling) : Session σ :=
  let held : Handles := ⟨session.world.clock, session.contexts, session.cancellers⟩
  let after := held.run steps
  { session with
    world := { session.world with clock := after.clock }
    contexts := after.contexts
    cancellers := after.cancellers }

private def addContext (session : Session σ) (step : Json) : Reading (Session σ) := do
  let name ← name step
  let base ← match given? step "from" with
    | some json =>
      let origin ← string json
      let _ ← named session.contexts json
      pure (.cloneContext origin name)
    | none => pure (if flag step "cancel" then .withCancel name else .background name)
  let limits ← listOr (limit session.world.clock.now) step "limits"
  pure (session.handle (base :: limits.map (.limit name)))

private def contextJson (context : Context) (clock : Clock) : Json := object [
  ("cancelled", .bool (context.isCancelled clock)),
  ("err", optional errorJson (context.fault? clock)),
  ("left_us", optional (fun span => natural (span.nanoseconds / 1000)) (context.left? clock))]

private def infoJson (session : Session σ) (step : Json) : Reading Json := do
  let query := (← builder step) (← session.siteOf step)
  let sql ← stringOr step "sql" ""
  let args ← listOr value step "args"
  let shown (name : Json) : Reading String := do
    let transaction ← named session.transactions name
    let isOpen := session.world.sessions.contains transaction.session
    pure (transaction.description isOpen)
  let transaction ← match given? step "tx" with
    | some name => shown name
    | none => pure ""
  let database := session.database
  pure (object [
    ("transaction", .bool query.connection.isTransaction), ("table", .string query.table),
    ("dialect", .string query.dialect.name), ("driver", .string database.dialect.name),
    ("raw", .array [.string sql, valuesJson args]),
    ("debug", stringsJson [database.description session.world.cache.driver?.isSome, transaction])])

/-- A step that names a context or a transaction. -/
private def runNaming (session : Session σ) (step : Json) :
    Reading (List (String × Json) × Session σ) := do
  let nothing := [("result", Json.null)]
  let clock := session.world.clock
  let without (name : String) : Session σ :=
    { session with transactions := session.transactions.filter (·.1 ≠ name) }
  match ← string (← member step "do") with
  | "ctx" => pure (nothing, ← session.addContext step)
  | "ctx_info" =>
    let context ← named session.contexts (← member step "name")
    pure ([("result", contextJson context clock)], session)
  | "cancel" => pure (nothing, session.handle [.cancel (← name step)])
  | "cancel_after" =>
    let span ← nat (← member step "us")
    pure (nothing, session.handle [.cancelAfter (← name step) (.ofMicroseconds span)])
  | "drop_canceller" => pure (nothing, session.handle [.dropCanceller (← name step)])
  | "begin" =>
    let name ← name step
    let (ending, world) := session.database.begin (← session.contextOf step) session.world
    let session := { session with world := world }
    match ending with
    | .done transaction => pure ([("result", .string transaction.dialect.name)],
        { session with transactions := Entries.insert name transaction session.transactions })
    | .failed error => pure (errorMembers error, session)
    | _ => .error "begin does not end"
  | "commit" =>
    let transaction ← named session.transactions (← member step "name")
    (without (← name step)).runTask (do transaction.commit; pure .null)
  | "rollback" =>
    let transaction ← named session.transactions (← member step "name")
    (without (← name step)).runTask (do transaction.rollback; pure .null)
  | "drop" =>
    let transaction ← named session.transactions (← member step "name")
    (without (← name step)).runTask (do transaction.drop; pure .null)
  | "transaction" => session.runTransaction step
  | "info" => pure ([("result", ← session.infoJson step)], session)
  | other => .error ("step " ++ other)

def run (session : Session σ) (step : Json) : Reading (List (String × Json) × Session σ) := do
  match ← call step with
  | some call => session.runTask (call (← session.siteOf step))
  | none => session.runNaming step

private def cacheJson : CacheCall → Json
  | .get _ key hit => .array [.string "get", .string key, .bool hit]
  | .set _ key rows ttl =>
    .array [.string "set", .string key, natural rows.length, natural ttl.milliseconds]

/-- A list of members that is left out when it is empty. -/
private def unlessEmpty (name : String) (items : List Json) : List (String × Json) :=
  if items.isEmpty then [] else [(name, .array items)]

/-- Run a step on a backend that is set up for it, and tell what it did. -/
def runStep (logs : Bool) (session : Session σ) (step : Json) : Reading (Json × Session σ) := do
  let world := session.world
  let backend ← Staged.load step world.backend.backend
  let start := world.clock.now
  let fresh : World (Noted σ) := { world with
    backend := ⟨Staged.clearCalls backend, []⟩
    log := []
    cache := { world.cache with calls := [] } }
  let (outcome, session) ← ({ session with world := fresh } : Session σ).run step
  let world := session.world
  let timed := (given? step "ctx").isSome || given? step "do" = some (.string "sleep")
  let took : Duration := ⟨world.clock.now - start⟩
  pure (object (outcome ++ unlessEmpty "calls" (Staged.calls world.backend.backend) ++
    unlessEmpty "cache" (world.cache.calls.map cacheJson) ++
    (if timed then [("took_ms", natural took.milliseconds)] else []) ++
    (if logs then [("logs", .array (world.log.map logJson))] else []) ++
    [("tx", .array ((Staged.counts world.backend.backend).map natural))]), session)

def runSteps (logs : Bool) (session : Session σ) : List Json → Reading (List Json × Session σ)
  | [] => pure ([], session)
  | step :: rest => do
    let (answer, session) ← session.runStep logs step
    let (answers, session) ← runSteps logs session rest
    pure (answer :: answers, session)

/-- All steps of a script. -/
def runScript (session : Session σ) (script : Json) : Reading Json := do
  let steps ← list (← member script "steps")
  let (answers, session) ← session.runSteps (flag script "logs") steps
  pure (object [("steps", .array answers),
    ("visible", stringsJson (Staged.visible session.world.backend.backend))])

end Session
end FluentSql.Script
