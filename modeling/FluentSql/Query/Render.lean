import FluentSql.Query.Basic

/-! Builders as select statements, counts and aggregates. -/
namespace FluentSql

/-- A statement whose placeholders are question marks, with their arguments in order. -/
structure Statement where
  sql : String
  args : List Value
  deriving DecidableEq, Inhabited

namespace Query

def columnList (query : Query) : String :=
  if query.columns.isEmpty then "*" else Text.commaList query.columns

/-- Nothing when the conditions show no text; their arguments stay. -/
def whereClause (query : Query) : String :=
  let text := query.conditions.text
  if text = "" then "" else " WHERE " ++ text

def fromClause (query : Query) : String :=
  (if query.table = "" then ""
    else " FROM " ++ query.table ++ (match query.alias? with
      | some label => " AS " ++ label
      | none => "")) ++
    (query.joins.map fun join => " " ++ join.sql).foldl (· ++ ·) ""

def groupClause (query : Query) : String :=
  (if query.groupBy.isEmpty then "" else " GROUP BY " ++ Text.commaList query.groupBy) ++
    (if query.having.isEmpty then "" else " HAVING " ++ Text.join " AND " query.having)

/-- Arguments of the conditions on groups; without such a condition there are none. -/
def groupArgs (query : Query) : List Value :=
  if query.having.isEmpty then [] else query.havingArgs

def orderClause (query : Query) : String :=
  (if query.orderBy.isEmpty then "" else " ORDER BY " ++ Text.commaList query.orderBy) ++
    (match query.limit? with
      | some limit => " LIMIT " ++ Text.natText limit.toNat
      | none => "") ++
    (match query.offset? with
      | some offset => " OFFSET " ++ Text.natText offset.toNat
      | none => "")

def lockClause (query : Query) : String :=
  match query.lock? with
  | some lock => if query.dialect.locksRows then " " ++ lock else ""
  | none => ""

/-- Columns, tables, conditions and groups, without ordering and limits. -/
def core (query : Query) : Statement where
  sql := "SELECT " ++ query.columnList ++ query.fromClause ++ query.whereClause ++ query.groupClause
  args := query.columnArgs ++ query.conditions.args ++ query.groupArgs

def wrapped (dialect : Dialect) (sql : String) : String :=
  if dialect.wrapsOperands then "(" ++ sql ++ ")" else sql

/-- An operand with the word that joins it to what stands before. -/
def operandText (dialect : Dialect) (operand : Operand) : String :=
  (if operand.all then " UNION ALL " else " UNION ") ++ wrapped dialect operand.sql

/-- The select statement, whatever construction errors there are. With unions, ordering and limits
apply to the whole, and no rows are locked. -/
def render (query : Query) : Statement :=
  let core := query.core
  if query.operands.isEmpty then ⟨core.sql ++ query.orderClause ++ query.lockClause, core.args⟩
  else
    ⟨wrapped query.dialect core.sql ++
        (query.operands.map (operandText query.dialect)).foldl (· ++ ·) "" ++ query.orderClause,
      core.args ++ query.operands.flatMap Operand.args⟩

def toSql (query : Query) : Except Error Statement := do
  query.check
  query.requireSelection
  pure query.render

/-- An expression over the filtered table, without columns, groups and limits. -/
def renderScalar (query : Query) (expr : String) : Statement where
  sql := "SELECT " ++ expr ++ query.fromClause ++ query.whereClause
  args := query.conditions.args

/-- A count of rows: over the filtered table, or over the whole select where groups or unions make
its rows differ from those of the table. -/
def renderCount (query : Query) : Statement :=
  if !query.groupBy.isEmpty || !query.operands.isEmpty || query.table = "" then
    let inner := { query with orderBy := [], limit? := none, offset? := none, lock? := none }.render
    ⟨"SELECT COUNT(*) FROM (" ++ inner.sql ++ ") AS sub", inner.args⟩
  else query.renderScalar "COUNT(*)"

/-! Builders inside other builders. The construction error of an inner one is taken over. -/

/-- A subquery as a column. -/
def selectSub (query sub : Query) (label : String) : Query :=
  let rendered := sub.render
  (query.absorb sub).selectRaw ("(" ++ rendered.sql ++ ") AS " ++ label) rendered.args

/-- A column compared with a subquery. -/
def whereSubQuery (query : Query) (column op : String) (sub : Query) : Query :=
  let rendered := sub.render
  (query.absorb sub).andWhere (column ++ " " ++ op ++ " (" ++ rendered.sql ++ ")") rendered.args

/-- The whole builder as the one column of a new one. -/
def subQuery (query : Query) (label : String) : Query :=
  let rendered := query.render
  { new query.connection "" with
    columns := ["(" ++ rendered.sql ++ ") AS " ++ label]
    columnArgs := rendered.args
    fault? := query.fault? }

def addOperand (query : Query) (all : Bool) (other : Query) : Query :=
  let rendered := other.render
  let joined := query.absorb other
  { joined with operands := joined.operands ++ [⟨all, rendered.sql, rendered.args⟩] }

def union (query other : Query) : Query := query.addOperand false other

def unionAll (query other : Query) : Query := query.addOperand true other

end Query
end FluentSql
