import FluentSql.Error
import FluentSql.Placeholder.Numbered

/-! The backend families and what differs between their statements. -/
namespace FluentSql

inductive Dialect where
  | mySql
  | postgres
  | sqlite
  deriving DecidableEq, Inhabited

namespace Dialect

def name : Dialect → String
  | .mySql => "mysql"
  | .postgres => "postgres"
  | .sqlite => "sqlite"

/-- The family a backend tag stands for, in any ASCII case. -/
def ofTag (tag : String) : Except Error Dialect :=
  let lower := tag.map Char.toLower
  if lower = "mysql" ∨ lower = "mariadb" then .ok .mySql
  else if lower = "postgres" ∨ lower = "postgresql" ∨ lower = "pgx" then .ok .postgres
  else if lower = "sqlite" ∨ lower = "sqlite3" then .ok .sqlite
  else .error (.unknownDriver lower)

/-- A finished statement with placeholders in the backend's own form. -/
def rebind (dialect : Dialect) (sql : String) : String :=
  match dialect with
  | .postgres => Placeholder.numbered sql
  | _ => sql

/-- Whether an insert may return the ids it made. -/
def returnsIds (dialect : Dialect) : Bool := dialect = .postgres

/-- Whether a select may lock the rows it reads. -/
def locksRows (dialect : Dialect) : Bool := dialect ≠ .sqlite

/-- Whether the operands of a compound query may stand in parentheses. -/
def wrapsOperands (dialect : Dialect) : Bool := dialect ≠ .sqlite

def indexesFullText (dialect : Dialect) : Bool := dialect = .mySql

/-- The keyword of an auto-increment column whose type does not imply it. -/
def autoIncrementKeyword? (dialect : Dialect) : Option String :=
  if dialect = .mySql then some "AUTO_INCREMENT" else none

/-- The ids of a multi-row insert that got consecutive ones. Backends report the first of them,
only SQLite the last. A row count is read as a signed word. -/
def consecutiveIds (dialect : Dialect) (reported : Int64) (rows : Nat) : List Int64 :=
  let first : Int := if dialect = .sqlite then reported.toInt - rows + 1 else reported.toInt
  if rows < 9223372036854775808 then
    (List.range rows).map fun (place : Nat) => Int64.ofInt (first + place)
  else []

/-- An aggregate as a floating point number. -/
def floatCast (dialect : Dialect) (expr : String) : String :=
  let type := match dialect with
    | .mySql => "DOUBLE"
    | .postgres => "DOUBLE PRECISION"
    | .sqlite => "REAL"
  "CAST(" ++ expr ++ " AS " ++ type ++ ")"

end Dialect
end FluentSql
