import FluentSql.Dialect.Basic

/-! Where statements run, and in which dialect. -/
namespace FluentSql

/-- An open transaction of a backend, by its number. -/
abbrev SessionId := Nat

/-- What executes the statements of a builder. -/
inductive Target where
  | pool
  | transaction (session : SessionId)
  | detached
  deriving DecidableEq, Inhabited

structure Connection where
  target : Target
  dialect : Dialect
  deriving DecidableEq, Inhabited

def Connection.isTransaction (connection : Connection) : Bool :=
  match connection.target with
  | .transaction _ => true
  | _ => false

end FluentSql
