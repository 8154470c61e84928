import FluentSql.Connection
import FluentSql.Predicate.Render
import FluentSql.Text.Digits

/-! Statement builders: one table, the clauses collected for it and the first construction error. -/
namespace FluentSql

inductive JoinKind where
  | inner
  | left
  | right
  | cross
  deriving DecidableEq

def JoinKind.text : JoinKind → String
  | .inner => "INNER JOIN"
  | .left => "LEFT JOIN"
  | .right => "RIGHT JOIN"
  | .cross => "CROSS JOIN"

/-- A cross join carries no condition. -/
structure Join where
  kind : JoinKind
  table : String
  condition? : Option String
  deriving DecidableEq

def Join.sql (join : Join) : String :=
  match join.condition? with
  | some condition =>
    if join.kind = .cross then join.kind.text ++ " " ++ join.table
    else join.kind.text ++ " " ++ join.table ++ " ON " ++ condition
  | none => join.kind.text ++ " " ++ join.table

/-- A right-hand operand of a union, already rendered. -/
structure Operand where
  all : Bool
  sql : String
  args : List Value
  deriving DecidableEq

structure Query where
  connection : Connection
  table : String
  alias? : Option String
  columns : List String
  columnArgs : List Value
  joins : List Join
  conditions : Conditions
  groupBy : List String
  having : List String
  havingArgs : List Value
  orderBy : List String
  limit? : Option UInt64
  offset? : Option UInt64
  lock? : Option String
  operands : List Operand
  ttl? : Option Duration
  fault? : Option Error
  deriving Inhabited

namespace Query

def new (connection : Connection) (table : String) : Query where
  connection := connection
  table := table
  alias? := none
  columns := []
  columnArgs := []
  joins := []
  conditions := []
  groupBy := []
  having := []
  havingArgs := []
  orderBy := []
  limit? := none
  offset? := none
  lock? := none
  operands := []
  ttl? := none
  fault? := none

def dialect (query : Query) : Dialect := query.connection.dialect

/-- Keep the first construction error. -/
def fail (query : Query) (error : Error) : Query :=
  match query.fault? with
  | some _ => query
  | none => { query with fault? := some error }

/-- Take over the error of a builder that becomes part of this one. -/
def absorb (query other : Query) : Query :=
  match other.fault? with
  | some error => query.fail error
  | none => query

theorem fail_eq (query : Query) (error : Error) :
    query.fail error = { query with fault? := query.fault?.or (some error) } := by
  unfold fail
  cases query with
  | mk _ _ _ _ _ _ _ _ _ _ _ _ _ _ _ _ fault? => cases fault? <;> rfl

theorem absorb_eq (query other : Query) :
    query.absorb other = { query with fault? := query.fault?.or other.fault? } := by
  unfold absorb
  split
  · rename_i error found
    rw [fail_eq, found]
  · rename_i none
    rw [none, Option.or_none]

theorem fault?_fail (query : Query) (error : Error) :
    (query.fail error).fault? = query.fault?.or (some error) := by
  rw [fail_eq]

theorem fault?_absorb (query other : Query) :
    (query.absorb other).fault? = query.fault?.or other.fault? := by
  rw [absorb_eq]

def check (query : Query) : Except Error Unit :=
  match query.fault? with
  | some error => .error error
  | none => .ok ()

def requireTable (query : Query) (operation : String) : Except Error Unit :=
  if query.table = "" then .error (.validation (.noTable operation)) else .ok ()

def requireSelection (query : Query) : Except Error Unit :=
  if query.table = "" ∧ query.columns = [] then .error (.validation .nothingSelected) else .ok ()

/-- Route every statement of the builder through a transaction. -/
def withTransaction (query : Query) (connection : Connection) : Query :=
  { query with connection := connection }

def setAlias (query : Query) (name : String) : Query := { query with alias? := some name }

/-- Keep the result of reads for a while, where a cache is set. -/
def remember (query : Query) (ttl : Duration) : Query := { query with ttl? := some ttl }

/-- Replace the selected columns; none at all selects everything. -/
def select (query : Query) (columns : List String) : Query :=
  { query with columns := columns, columnArgs := [] }

def selectRaw (query : Query) (expr : String) (args : List Value) : Query :=
  { query with columns := query.columns ++ [expr], columnArgs := query.columnArgs ++ args }

/-- A window function; an empty partition, order or alias leaves out its clause. -/
def window (query : Query) (function partition order label : String) : Query :=
  let clauses :=
    (if partition = "" then [] else ["PARTITION BY " ++ partition]) ++
      (if order = "" then [] else ["ORDER BY " ++ order])
  query.selectRaw (function ++ " OVER (" ++ Text.join " " clauses ++ ")" ++
    (if label = "" then "" else " AS " ++ label)) []

def andWhere (query : Query) (clause : String) (args : List Value) : Query :=
  { query with conditions := query.conditions.and clause args }

def orWhere (query : Query) (clause : String) (args : List Value) : Query :=
  { query with conditions := query.conditions.or clause args }

def whereId (query : Query) (id : Value) : Query := query.andWhere "id = ?" [id]

def whereGroup (query : Query) (connector : Connector) (members : Conditions) : Query :=
  { query with conditions := query.conditions.attach connector members }

/-- Membership in an empty list never holds. -/
def whereIn (query : Query) (column : String) (values : List Value) : Query :=
  if values.isEmpty then query.andWhere "1 = 0" []
  else query.andWhere (column ++ " IN (" ++ Text.placeholders values.length ++ ")") values

/-- Absence from an empty list always holds. -/
def whereNotIn (query : Query) (column : String) (values : List Value) : Query :=
  if values.isEmpty then query.andWhere "1 = 1" []
  else query.andWhere (column ++ " NOT IN (" ++ Text.placeholders values.length ++ ")") values

def whereNull (query : Query) (column : String) : Query :=
  query.andWhere (column ++ " IS NULL") []

def whereNotNull (query : Query) (column : String) : Query :=
  query.andWhere (column ++ " IS NOT NULL") []

def whereBetween (query : Query) (column : String) (first last : Value) : Query :=
  query.andWhere (column ++ " BETWEEN ? AND ?") [first, last]

def whereNotBetween (query : Query) (column : String) (first last : Value) : Query :=
  query.andWhere (column ++ " NOT BETWEEN ? AND ?") [first, last]

def addJoin (query : Query) (kind : JoinKind) (table : String) (condition? : Option String) :
    Query :=
  { query with joins := query.joins ++ [⟨kind, table, condition?⟩] }

def setGroupBy (query : Query) (columns : List String) : Query := { query with groupBy := columns }

/-- Replace the conditions on groups. -/
def setHaving (query : Query) (condition : String) : Query :=
  { query with having := [condition], havingArgs := [] }

def havingRaw (query : Query) (sql : String) (args : List Value) : Query :=
  { query with having := query.having ++ [sql], havingArgs := query.havingArgs ++ args }

/-- A direction is one of two words in any case, with any blanks around it. -/
def addOrder (query : Query) (column direction : String) : Query :=
  let word := String.ofList ((Text.trim direction.toList).map Char.toUpper)
  if word = "ASC" ∨ word = "DESC" then
    { query with orderBy := query.orderBy ++ [column ++ " " ++ word] }
  else query.fail (.validation (.orderDirection direction))

def setLimit (query : Query) (limit : UInt64) : Query := { query with limit? := some limit }

def setOffset (query : Query) (offset : UInt64) : Query := { query with offset? := some offset }

def lockRows (query : Query) (lock : String) : Query := { query with lock? := some lock }

/-- A modifier needs a lock to modify. -/
def lockModifier (query : Query) (modifier : String) : Query :=
  match query.lock? with
  | some lock => { query with lock? := some (lock ++ " " ++ modifier) }
  | none => query.fail (.validation (.lockModifier modifier))

end Query
end FluentSql
