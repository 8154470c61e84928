import FluentSql.Execution
import FluentSql.Query.Batch
import FluentSql.Row.Decode

/-! Writing with a builder: inserts, updates and deletes. -/
namespace FluentSql.Query

/-- Insert so many rows of the given columns. -/
def insertSql (query : Query) (columns : List String) (rows : Nat) : String :=
  let tuple := "(" ++ Text.placeholders columns.length ++ ")"
  "INSERT INTO " ++ query.table ++ " (" ++ Text.commaList columns ++ ") VALUES " ++
    Text.commaList (List.replicate rows tuple)

/-- Ask for the new identities, where the dialect can. -/
def returningId (query : Query) (sql : String) : String :=
  if query.dialect.returnsIds then sql ++ " RETURNING id" else sql

/-- Checks that every write begins with. -/
def requireTarget (query : Query) (operation : String) : Except Error Unit := do
  query.check
  query.requireTable operation

def createStatement (query : Query) (fields : Fields) : Except Error Statement := do
  query.requireTarget "create"
  if fields.isEmpty then .error (.validation .emptyRecord)
  pure ⟨query.returningId (query.insertSql fields.columns 1), fields.values⟩

def insertBatch (query : Query) (batch : Batch) : Statement :=
  ⟨query.insertSql batch.columns batch.rows.length, batch.values⟩

/-- No statement at all for no records. -/
def batchInsertStatement? (query : Query) (records : List Fields) :
    Except Error (Option Statement) := do
  query.requireTarget "batch insert"
  let batch ← Batch.collect records
  pure (if batch.isEmpty then none else some (query.insertBatch batch))

def bulkInsertStatement? (query : Query) (records : List Fields) :
    Except Error (Option Statement) := do
  query.requireTarget "bulk insert"
  let batch ← Batch.collect records
  let insert := query.insertBatch batch
  pure (if batch.isEmpty then none else some ⟨query.returningId insert.sql, insert.args⟩)

/-- An update with its assignments and their arguments; those of the conditions follow. -/
def updateWith (query : Query) (assignments : String) (args : List Value) : Statement :=
  ⟨"UPDATE " ++ query.table ++ " SET " ++ assignments ++ query.whereClause,
    args ++ query.conditions.args⟩

/-- Set the named columns from a record, or all of its columns when none is named. -/
def updateStatement (query : Query) (fields : Fields) (names : List String) :
    Except Error Statement := do
  query.requireTarget "update"
  let columns := if names.isEmpty then fields.columns else names
  if columns.isEmpty then .error (.validation (.nothingToSet "update"))
  let assignments := columns.map fun column => column ++ " = :" ++ column
  let (sql, args) ← Placeholder.compileRecord (Text.commaList assignments) fields
  pure (query.updateWith sql args)

/-- Set columns to values. -/
def updateMapStatement (query : Query) (data : Entries Value) : Except Error Statement := do
  query.requireTarget "update"
  if data.isEmpty then .error (.validation (.nothingToSet "update"))
  let assignments := data.map fun entry => entry.1 ++ " = ?"
  pure (query.updateWith (Text.commaList assignments) (data.map Prod.snd))

/-- The new value of a column by the key of the row; other rows keep theirs. -/
def caseText (key column : String) (rows : Nat) : String :=
  column ++ " = CASE " ++ key ++ " " ++ Text.join " " (List.replicate rows "WHEN ? THEN ?") ++
    " ELSE " ++ column ++ " END"

/-- Set the columns of many rows at once, each row found by its key. -/
def bulkUpdateStatement? (query : Query) (records : List Fields) (key : String) :
    Except Error (Option Statement) := do
  query.requireTarget "bulk update"
  let batch ← Batch.collect records
  if batch.isEmpty then pure none
  else
    if !batch.columns.contains key then .error (.validation (.noKeyColumn key))
    let targets := batch.columns.filter (· ≠ key)
    if targets.isEmpty then .error (.validation (.nothingToSet "bulk update"))
    let keys := batch.rows.map fun row => Batch.value row key
    let cases := targets.map fun column => caseText key column batch.rows.length
    let caseArgs := targets.flatMap fun column =>
      batch.rows.flatMap fun row => [Batch.value row key, Batch.value row column]
    let blank := query.conditions.isBlank
    pure (some ⟨"UPDATE " ++ query.table ++ " SET " ++ Text.commaList cases ++ " WHERE " ++ key ++
        " IN (" ++ Text.placeholders keys.length ++ ")" ++
        (if blank then "" else " AND (" ++ query.conditions.text ++ ")"),
      caseArgs ++ keys ++ (if blank then [] else query.conditions.args)⟩)

/-- Move a column by an amount, up with `+` and down with `-`. -/
def stepStatement (query : Query) (column operator : String) (amount : Value) :
    Except Error Statement := do
  query.requireTarget "update"
  pure (query.updateWith (column ++ " = " ++ column ++ " " ++ operator ++ " ?") [amount])

/-- A delete has to have a condition. -/
def deleteStatement (query : Query) : Except Error Statement := do
  query.requireTarget "delete"
  if query.conditions.isBlank then .error (.validation .unguardedDelete)
  pure ⟨"DELETE FROM " ++ query.table ++ query.whereClause, query.conditions.args⟩

variable {σ : Type} [Backend σ]

def exec (query : Query) (context : Context) (statement : Statement) : Task σ WriteResult :=
  query.connection.exec context statement.sql statement.args

/-- The number of rows that a statement touches. -/
def affected (query : Query) (context : Context) (statement : Except Error Statement) :
    Task σ UInt64 := do
  pure (← query.exec context (← Task.ofExcept statement)).rowsAffected

def lastInsertId (result : WriteResult) : Task σ Int64 :=
  match result.lastInsertId? with
  | some id => pure id
  | none => Task.fail .noLastInsertId

/-- Insert one record and give back its new identity. -/
def create (query : Query) (context : Context) (fields : Fields) : Task σ Int64 := do
  let statement ← Task.ofExcept (query.createStatement fields)
  if query.dialect.returnsIds then
    match ← query.connection.get context statement.sql statement.args with
    | some row => Task.ofExcept (row.getAt 0)
    | none => Task.fail .noInsertedId
  else lastInsertId (← query.exec context statement)

/-- Insert many records and count them. -/
def batchInsert (query : Query) (context : Context) (records : List Fields) : Task σ UInt64 := do
  match ← Task.ofExcept (query.batchInsertStatement? records) with
  | some statement => query.affected context (.ok statement)
  | none => pure 0

/-- Insert many records and give back their identities in the order of the records. Where the
dialect does not return them they are counted on from the one that the backend reports. -/
def bulkInsert (query : Query) (context : Context) (records : List Fields) :
    Task σ (List Int64) := do
  match ← Task.ofExcept (query.bulkInsertStatement? records) with
  | none => pure []
  | some statement =>
    if query.dialect.returnsIds then
      let rows ← query.connection.select context statement.sql statement.args
      Task.ofExcept (rows.mapM fun row => row.getAt 0)
    else
      let result ← query.exec context statement
      let id ← lastInsertId result
      let rows := result.rowsAffected.toNat
      Task.report (.idsSynthesized query.dialect.name query.table rows)
      pure (query.dialect.consecutiveIds id rows)

def update (query : Query) (context : Context) (fields : Fields) (names : List String) :
    Task σ UInt64 :=
  query.affected context (query.updateStatement fields names)

def updateMap (query : Query) (context : Context) (data : Entries Value) : Task σ UInt64 :=
  query.affected context (query.updateMapStatement data)

def bulkUpdate (query : Query) (context : Context) (records : List Fields) (key : String) :
    Task σ UInt64 := do
  match ← Task.ofExcept (query.bulkUpdateStatement? records key) with
  | some statement => query.affected context (.ok statement)
  | none => pure 0

def increment (query : Query) (context : Context) (column : String) (amount : Value) :
    Task σ UInt64 :=
  query.affected context (query.stepStatement column "+" amount)

def decrement (query : Query) (context : Context) (column : String) (amount : Value) :
    Task σ UInt64 :=
  query.affected context (query.stepStatement column "-" amount)

def delete (query : Query) (context : Context) : Task σ UInt64 :=
  query.affected context query.deleteStatement

end FluentSql.Query
