import FluentSql.Backend
import FluentSql.Placeholder.Named
import FluentSql.Query.Render

/-! Statements on their way to a backend: placeholders in the form of the dialect, the context of
the caller, the log and the cache. -/
namespace FluentSql.Connection

variable {σ : Type} [Backend σ]

/-- The transaction that statements run in, none for the pool. A detached builder has nowhere to run
and a finished transaction takes no more statements. -/
def executor (connection : Connection) : Task σ (Option SessionId) := fun world =>
  match connection.target with
  | .pool => (.done none, world)
  | .transaction session =>
    if session ∈ world.sessions then (.done (some session), world)
    else (.failed .transactionFinished, world)
  | .detached => (.failed .detachedBuilder, world)

/-- Run one statement under a context and log it, whether it succeeds or not. -/
def dispatch (connection : Connection) (context : Context) (sql : String) (args : List Value)
    (operation : Option SessionId → String → List Value → Task σ α) : Task σ α := do
  let session? ← connection.executor
  let sql := connection.dialect.rebind sql
  let result ← (operation session? sql args |>.within context).attempt
  let executor := if session?.isSome then ExecutorKind.transaction else .pool
  Task.report (.executed executor sql args.length result.isOk)
  Task.ofExcept result

def select (connection : Connection) (context : Context) (sql : String) (args : List Value) :
    Task σ (List Row) :=
  connection.dispatch context sql args Backend.query

/-- The first row, if any. -/
def get (connection : Connection) (context : Context) (sql : String) (args : List Value) :
    Task σ (Option Row) := do
  pure (← connection.select context sql args).head?

def exec (connection : Connection) (context : Context) (sql : String) (args : List Value) :
    Task σ WriteResult :=
  connection.dispatch context sql args Backend.execute

/-- Run a statement whose named placeholders are bound from a record. -/
def namedExec (connection : Connection) (context : Context) (sql : String) (fields : Fields) :
    Task σ WriteResult := do
  let (sql, args) ← Task.ofExcept (Placeholder.compileRecord sql fields)
  connection.exec context sql args

/-- Run statements one after another, up to the first that fails. -/
def execAll (connection : Connection) (context : Context) : List String → Task σ Unit
  | [] => pure ()
  | sql :: rest => do
    let _ ← connection.exec context sql []
    connection.execAll context rest

/-- Reads on the pool go through the driver in use when a time to live is given. Only the
rows of a statement that has succeeded are kept. -/
def selectCached (connection : Connection) (context : Context) (statement : Statement)
    (ttl? : Option Duration) : Task σ (List Row) := do
  let driver? ← Task.read fun world => world.cache.driver?
  match connection.target, ttl?, driver? with
  | .pool, some ttl, some driver =>
    let key := cacheKey statement.sql statement.args
    match ← lookup driver key with
    | some rows => pure rows
    | none =>
      let rows ← connection.select context statement.sql statement.args
      Task.modify fun world => { world with cache := world.cache.set driver key rows ttl }
      pure rows
  | _, _, _ => connection.select context statement.sql statement.args
where
  lookup (driver : DriverId) (key : String) : Task σ (Option (List Row)) := fun world =>
    let (found?, cache) := world.cache.get driver key
    (.done found?, { world with cache := cache })

end FluentSql.Connection
