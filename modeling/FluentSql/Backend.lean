import FluentSql.Task

/-! What runs the statements: a pool of connections that opens transactions on demand. -/
namespace FluentSql

/-- The outcome of a statement that returns no rows. -/
structure WriteResult where
  rowsAffected : UInt64
  lastInsertId? : Option Int64
  deriving DecidableEq, Inhabited

/-- States of a backend. Statements run in a transaction or, without one, on the pool. -/
class Backend (σ : Type) where
  query : Option SessionId → String → List Value → Task σ (List Row)
  execute : Option SessionId → String → List Value → Task σ WriteResult
  ping : Task σ Unit
  begin : Task σ SessionId
  commit : SessionId → Task σ Unit
  rollback : SessionId → Task σ Unit
  /-- Give up a transaction that is still open. -/
  discard : SessionId → Task σ Unit

end FluentSql
