import FluentSql.Dialect.Tables
import FluentSql.Query.Reads
import FluentSql.Query.Writes
import FluentSql.Schema.Step
import FluentSql.Transaction

/-! The handle on a database: builders on its pool, transactions and changes of tables. -/
namespace FluentSql

structure Database where
  dialect : Dialect
  deriving DecidableEq

namespace Database

/-- A database of the family that a backend names. -/
def ofTag (tag : String) : Except Error Database := Database.mk <$> Dialect.ofTag tag

def connection (database : Database) : Connection := ⟨.pool, database.dialect⟩

def table (database : Database) (name : String) : Query := .new database.connection name

def raw (database : Database) (sql : String) (args : List Value) : Raw :=
  ⟨database.connection, sql, args⟩

def family : Dialect → String
  | .mySql => "MySql"
  | .postgres => "Postgres"
  | .sqlite => "Sqlite"

/-- The database as it is shown to a developer. -/
def description (database : Database) (cached : Bool) : String :=
  "Database \x7b driver: " ++ family database.dialect ++ ", cache: " ++ toString cached ++ " \x7d"

variable {σ : Type} [Backend σ]

def ping (_ : Database) (context : Context) : Task σ Unit :=
  (Backend.ping : Task σ Unit).within context

def setCache (_ : Database) (driver : DriverId) : Task σ Unit :=
  Task.modify fun world => { world with cache := world.cache.activate driver }

def clearCache (_ : Database) : Task σ Unit :=
  Task.modify fun world => { world with cache := world.cache.deactivate }

def begin (database : Database) (context : Context) : Task σ Transaction := do
  let session ← (Backend.begin : Task σ SessionId).within context
  Task.modify fun world => { world with sessions := world.sessions ++ [session] }
  pure ⟨session, database.dialect⟩

/-- Run a body in a transaction. It is committed when the body succeeds. When the body fails or the
context ends it, it is rolled back and the error stays, and when the body panics it is rolled back
and the panic goes on. -/
def transaction (database : Database) (context : Context) (body : Transaction → Task σ α) :
    Task σ α := do
  let transaction ← database.begin context
  fun world =>
    match (body transaction).within context world with
    | (.done value, after) => (do transaction.commit; pure value) after
    | (.failed error, after) => (do
        match ← transaction.rollback.attempt with
        | .ok () => pure ()
        | .error failure => Task.report (.rollbackFailed failure.message)
        Task.fail error) after
    | (.panicked message, after) => (do
        let _ ← transaction.rollback.attempt
        Task.panic message) after
    | (.overtaken depth error, after) =>
      (.overtaken depth error, (transaction.drop.run after).2)
    | (.stuck, after) => (.stuck, after)

/-- Run the statements of a table definition; options that the dialect has no words for are
reported. -/
def applySchema (database : Database) (context : Context) (schema : Schema) : Task σ Unit := do
  let rendering := schema.render database.dialect
  for skipped in rendering.skipped do
    Task.report (.optionSkipped skipped)
  database.connection.execAll context (← Task.ofExcept rendering.result)

def overTables (database : Database) (context : Context) (operation : String)
    (tables statements : List String) : Task σ Unit :=
  if tables.isEmpty then Task.fail (.validation (.noTables operation))
  else database.connection.execAll context statements

def dropTables (database : Database) (context : Context) (tables : List String)
    (ifExists cascade : Bool) : Task σ Unit :=
  database.overTables context "drop tables" tables
    (database.dialect.dropTables tables ifExists cascade)

def truncate (database : Database) (context : Context) (tables : List String)
    (restartIdentity cascade : Bool) : Task σ Unit :=
  database.overTables context "truncate" tables
    (database.dialect.truncateTables tables restartIdentity cascade)

end Database
end FluentSql
