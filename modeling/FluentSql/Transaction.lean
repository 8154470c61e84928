import FluentSql.Execution
import FluentSql.Raw

/-! Transactions: one session of the backend until it is committed, rolled back or dropped. -/
namespace FluentSql

structure Transaction where
  session : SessionId
  dialect : Dialect
  deriving DecidableEq

namespace Transaction

variable {σ : Type} [Backend σ]

def connection (transaction : Transaction) : Connection :=
  ⟨.transaction transaction.session, transaction.dialect⟩

/-- The transaction as it is shown to a developer. -/
def description (transaction : Transaction) (isOpen : Bool) : String :=
  "Transaction \x7b dialect: \"" ++ transaction.dialect.name ++ "\", open: " ++ toString isOpen ++
    " \x7d"

/-- A builder whose statements run in the transaction. -/
def table (transaction : Transaction) (name : String) : Query := .new transaction.connection name

def raw (transaction : Transaction) (sql : String) (args : List Value) : Raw :=
  ⟨transaction.connection, sql, args⟩

/-- Take the session out of the transaction, which finishes it. -/
def takeSession (transaction : Transaction) : Task σ SessionId := fun world =>
  if transaction.session ∈ world.sessions then
    (.done transaction.session,
      { world with sessions := world.sessions.filter (· ≠ transaction.session) })
  else (.failed .transactionFinished, world)

def commit (transaction : Transaction) : Task σ Unit := do
  Backend.commit (← transaction.takeSession)

def rollback (transaction : Transaction) : Task σ Unit := do
  Backend.rollback (← transaction.takeSession)

/-- A transaction that is dropped open loses its work. -/
def drop (transaction : Transaction) : Task σ Unit := do
  match ← (transaction.takeSession).attempt with
  | .ok session =>
    Backend.discard session
    Task.report (.transactionDropped transaction.dialect.name)
  | .error _ => pure ()

end Transaction
end FluentSql
