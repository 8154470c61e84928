import FluentSql.Dialect.Columns
import FluentSql.Log
import FluentSql.Schema.Table

/-! Statements that create, alter, drop and empty tables. -/
namespace FluentSql

/-- Statements in execution order, and the options left out on the way. -/
structure Rendering where
  result : Except Error (List String)
  skipped : List Skipped

/-- One clause of an ALTER TABLE. A rename is told apart: behind it the table has another name. -/
inductive AlterClause where
  | renameTable (target : String)
  | change (text : String)
  deriving DecidableEq

def AlterClause.text : AlterClause → String
  | .renameTable target => "RENAME TO " ++ target
  | .change text => text

/-- A statement that alters a table or its indexes. -/
inductive AlterStatement where
  | alterTable (table : String) (clauses : List AlterClause)
  | createIndex (table : String) (index : Index)
  | dropIndex (name : String)
  deriving DecidableEq

def AlterStatement.text : AlterStatement → String
  | .alterTable table clauses =>
    "ALTER TABLE " ++ table ++ " " ++ Text.commaList (clauses.map AlterClause.text)
  | .createIndex table index =>
    "CREATE " ++ (if index.kind = .unique then "UNIQUE " else "") ++ "INDEX " ++ index.name ++
      " ON " ++ table ++ " (" ++ Text.commaList index.columns ++ ")"
  | .dropIndex name => "DROP INDEX " ++ name

namespace Dialect

def skip (dialect : Dialect) (option detail : String) : Skipped :=
  ⟨dialect.name, option, detail⟩

/-- A statement of its own for an index; full text is left out. -/
def createIndex (dialect : Dialect) (table : String) (index : Index) :
    Option String × List Skipped :=
  match index.kind with
  | .plain => (some (AlterStatement.createIndex table index).text, [])
  | .unique => (some (AlterStatement.createIndex table index).text, [])
  | .fullText => (none, [dialect.skip "full-text index" index.name])

/-- An index as a clause of a table. -/
def indexClause (index : Index) : String :=
  let kind := match index.kind with
    | .plain => "INDEX"
    | .unique => "UNIQUE INDEX"
    | .fullText => "FULLTEXT INDEX"
  kind ++ " " ++ index.name ++ " (" ++ Text.commaList index.columns ++ ")"

def tableHead (schema : Schema) (body : List String) : String :=
  "CREATE " ++ (if schema.temporary then "TEMPORARY " else "") ++ "TABLE " ++
    (if schema.ifNotExists then "IF NOT EXISTS " else "") ++ schema.name ++ " (" ++
    Text.commaList body ++ ")"

/-- The keys of a table, as every backend writes them. -/
def tableConstraints (schema : Schema) : List String :=
  (if schema.primaryKey.isEmpty then []
    else ["PRIMARY KEY (" ++ Text.commaList schema.primaryKey ++ ")"]) ++
    schema.uniqueKeys.map (fun key =>
      "CONSTRAINT " ++ key.1 ++ " UNIQUE (" ++ Text.commaList key.2 ++ ")") ++
    schema.foreignKeys.map ForeignKey.sql

def tableOptions (schema : Schema) : String :=
  " ENGINE=" ++ schema.engine ++ " DEFAULT CHARSET=" ++ schema.charset ++ " COLLATE=" ++
    schema.collation ++ (match schema.comment? with
      | some comment => " COMMENT=" ++ Text.quoted comment
      | none => "")

/-- A table with its indexes as statements of their own. -/
def tableThenIndexes (dialect : Dialect) (schema : Schema) : List String × List Skipped :=
  let body := schema.columns.map dialect.columnDefinition ++ tableConstraints schema
  let indexes := schema.indexes.map (dialect.createIndex schema.name)
  (tableHead schema body :: indexes.filterMap Prod.fst, indexes.flatMap Prod.snd)

def commentStatements (schema : Schema) : List String :=
  (match schema.comment? with
    | some comment => ["COMMENT ON TABLE " ++ schema.name ++ " IS " ++ Text.quoted comment]
    | none => []) ++
    schema.columns.filterMap fun column => column.comment?.map fun comment =>
      "COMMENT ON COLUMN " ++ schema.name ++ "." ++ column.name ++ " IS " ++ Text.quoted comment

def createTable (dialect : Dialect) (schema : Schema) : List String × List Skipped :=
  match dialect with
  | .mySql =>
    let body := schema.columns.map dialect.columnDefinition ++ tableConstraints schema ++
      schema.indexes.map indexClause
    ([tableHead schema body ++ tableOptions schema], [])
  | .postgres =>
    let (statements, skipped) := dialect.tableThenIndexes schema
    let engine :=
      if schema.engine = Schema.defaultEngine then [] else [dialect.skip "engine" schema.engine]
    (statements ++ commentStatements schema, skipped ++ engine)
  | .sqlite => dialect.tableThenIndexes schema

/-- The column that an alteration points at. -/
def columnAt (schema : Schema) (index : Nat) : Except Error ColumnDef :=
  match schema.columns[index]? with
  | some column => .ok column
  | none => .error (.missingColumn index)

/-- What one alteration becomes: clauses that may share a statement, or statements of their own. -/
inductive Alteration where
  | clauses (clauses : List AlterClause)
  | statements (statements : List AlterStatement)
  | leftOut
  deriving DecidableEq

/-- One clause that is no rename. -/
def Alteration.change (text : String) : Alteration := .clauses [.change text]

/-- One clause in a statement of its own. -/
def Alteration.apart (table : String) (clause : AlterClause) : Alteration :=
  .statements [.alterTable table [clause]]

def positioned (dialect : Dialect) (column : ColumnDef) : String :=
  dialect.columnDefinition column ++ (match column.after? with
    | some name => " AFTER " ++ name
    | none => "")

/-- A MySQL alteration is one clause; a foreign key that is not there is none. -/
def mySqlAlteration (schema : Schema) : AlterCommand → Except Error Alteration
  | .addColumn index => do
    let column ← columnAt schema index
    pure (.change ("ADD COLUMN " ++ Dialect.mySql.positioned column))
  | .modifyColumn index => do
    let column ← columnAt schema index
    pure (.change ("MODIFY COLUMN " ++ Dialect.mySql.positioned column))
  | .dropColumn name => pure (.change ("DROP COLUMN " ++ name))
  | .renameColumn source target => pure (.change ("RENAME COLUMN " ++ source ++ " TO " ++ target))
  | .addIndex index => pure (.change ("ADD " ++ indexClause index))
  | .dropIndex name => pure (.change ("DROP INDEX " ++ name))
  | .addPrimaryKey columns => pure (.change ("ADD PRIMARY KEY (" ++ Text.commaList columns ++ ")"))
  | .addForeignKey index => pure (match schema.foreignKeys[index]? with
    | some key => .change ("ADD " ++ key.sql)
    | none => .clauses [])
  | .dropForeignKey name => pure (.change ("DROP FOREIGN KEY " ++ name))
  | .renameTable target => pure (.clauses [.renameTable target])
  | .changeEngine engine => pure (.change ("ENGINE=" ++ engine))
  | .changeCharset charset collation? =>
    pure (.change ("CONVERT TO CHARACTER SET " ++ charset ++ (match collation? with
      | some collation => " COLLATE " ++ collation
      | none => "")))

/-- A column change is one clause for its type, one for its nulls and one for its default. -/
def modifyClauses (column : ColumnDef) : List String :=
  let alter := "ALTER COLUMN " ++ column.name
  [alter ++ " TYPE " ++ Dialect.postgres.columnType column,
    alter ++ (if column.nullable then " DROP NOT NULL" else " SET NOT NULL")] ++
    (match column.default? with
      | some value => [alter ++ " SET DEFAULT " ++ value.sql]
      | none => [])

/-- An index that the backend has no words for is no statement. -/
def indexAlteration (schema : Schema) (index : Index) : Alteration :=
  .statements (if index.kind = .fullText then [] else [.createIndex schema.name index])

def postgresAlteration (schema : Schema) : AlterCommand → Except Error Alteration
  | .addColumn index => do
    let column ← columnAt schema index
    pure (.change ("ADD COLUMN " ++ Dialect.postgres.columnDefinition column))
  | .modifyColumn index => do
    let column ← columnAt schema index
    pure (.clauses ((modifyClauses column).map .change))
  | .dropColumn name => pure (.change ("DROP COLUMN " ++ name))
  | .addPrimaryKey columns => pure (.change ("ADD PRIMARY KEY (" ++ Text.commaList columns ++ ")"))
  | .addForeignKey index => pure (match schema.foreignKeys[index]? with
    | some key => .change ("ADD " ++ key.sql)
    | none => .clauses [])
  | .dropForeignKey name => pure (.change ("DROP CONSTRAINT " ++ name))
  | .renameColumn source target =>
    pure (.apart schema.name (.change ("RENAME COLUMN " ++ source ++ " TO " ++ target)))
  | .renameTable target => pure (.apart schema.name (.renameTable target))
  | .addIndex index => pure (indexAlteration schema index)
  | .dropIndex name => pure (.statements [.dropIndex name])
  | .changeEngine _ => pure .leftOut
  | .changeCharset _ _ => pure .leftOut

def sqliteAlteration (schema : Schema) : AlterCommand → Except Error Alteration
  | .addColumn index => do
    let column ← columnAt schema index
    pure (.apart schema.name (.change ("ADD COLUMN " ++ Dialect.sqlite.columnDefinition column)))
  | .dropColumn name => pure (.apart schema.name (.change ("DROP COLUMN " ++ name)))
  | .renameColumn source target =>
    pure (.apart schema.name (.change ("RENAME COLUMN " ++ source ++ " TO " ++ target)))
  | .renameTable target => pure (.apart schema.name (.renameTable target))
  | .addIndex index => pure (indexAlteration schema index)
  | .dropIndex name => pure (.statements [.dropIndex name])
  | .changeEngine _ => pure .leftOut
  | .changeCharset _ _ => pure .leftOut
  | .modifyColumn _ => .error (.unsupported Dialect.sqlite.name "MODIFY COLUMN")
  | .addPrimaryKey _ => .error (.unsupported Dialect.sqlite.name "ADD PRIMARY KEY")
  | .addForeignKey _ => .error (.unsupported Dialect.sqlite.name "ADD FOREIGN KEY")
  | .dropForeignKey _ => .error (.unsupported Dialect.sqlite.name "DROP FOREIGN KEY")

/-- One command on its own, in a dialect. -/
def alteration (dialect : Dialect) (schema : Schema) (command : AlterCommand) :
    Except Error Alteration :=
  match dialect with
  | .mySql => mySqlAlteration schema command
  | .postgres => postgresAlteration schema command
  | .sqlite => sqliteAlteration schema command

/-- What a command's alteration leaves out. MySQL has words for everything. -/
def alterationSkips (dialect : Dialect) (schema : Schema) (command : AlterCommand) : List Skipped :=
  match dialect, command with
  | .mySql, _ => []
  | _, .addIndex index => (dialect.createIndex schema.name index).2
  | _, .changeEngine engine => [dialect.skip "engine" engine]
  | _, .changeCharset charset _ => [dialect.skip "charset" charset]
  | _, _ => []

def flush (table : String) (clauses : List AlterClause) : List AlterStatement :=
  if clauses.isEmpty then [] else [.alterTable table clauses]

/-- Neighbouring clauses share one statement; a statement of its own ends the sharing. -/
def grouped (table : String) (pending : List AlterClause) : List Alteration → List AlterStatement
  | [] => flush table pending
  | .clauses clauses :: rest => grouped table (pending ++ clauses) rest
  | .statements statements :: rest => flush table pending ++ statements ++ grouped table [] rest
  | .leftOut :: rest => grouped table pending rest

/-- Commands in order up to the first that a backend cannot express, with what was left out so
far. -/
def alterations (dialect : Dialect) (schema : Schema) :
    List AlterCommand → Except Error (List Alteration) × List Skipped
  | [] => (.ok [], [])
  | command :: rest =>
    match dialect.alteration schema command with
    | .error error => (.error error, [])
    | .ok first =>
      let (others, skipped) := alterations dialect schema rest
      (others.map (first :: ·), dialect.alterationSkips schema command ++ skipped)

/-- The statements that a definition alters its table with. -/
def alterStatements (dialect : Dialect) (schema : Schema) : Except Error (List AlterStatement) :=
  (dialect.alterations schema schema.commands).1.map (grouped schema.name [])

def alterTable (dialect : Dialect) (schema : Schema) : Rendering :=
  ⟨(dialect.alterStatements schema).map fun statements => statements.map AlterStatement.text,
    (dialect.alterations schema schema.commands).2⟩

def dropTables (dialect : Dialect) (tables : List String) (ifExists cascade : Bool) : List String :=
  let guard := if ifExists then "IF EXISTS " else ""
  match dialect with
  | .sqlite => tables.map fun table => "DROP TABLE " ++ guard ++ table
  | _ => ["DROP TABLE " ++ guard ++ Text.commaList tables ++ (if cascade then " CASCADE" else "")]

/-- Remove all rows. SQLite keeps its counters in a table of its own. -/
def truncateTables (dialect : Dialect) (tables : List String) (restartIdentity cascade : Bool) :
    List String :=
  match dialect with
  | .mySql => tables.map fun table => "TRUNCATE TABLE " ++ table
  | .postgres =>
    ["TRUNCATE TABLE " ++ Text.commaList tables ++
      (if restartIdentity then " RESTART IDENTITY" else "") ++ (if cascade then " CASCADE" else "")]
  | .sqlite =>
    tables.map (fun table => "DELETE FROM " ++ table) ++
      (if restartIdentity then
        ["DELETE FROM sqlite_sequence WHERE name IN (" ++
          Text.commaList (tables.map fun table => "'" ++ table ++ "'") ++ ")"]
      else [])

end Dialect

/-- The statements of a definition. A table is not created without columns. -/
def Schema.render (schema : Schema) (dialect : Dialect) : Rendering :=
  match schema.mode with
  | .create =>
    if schema.columns.isEmpty then ⟨.error (.validation (.emptyTable schema.name)), []⟩
    else
      let (statements, skipped) := dialect.createTable schema
      ⟨.ok statements, skipped⟩
  | .alter => dialect.alterTable schema

end FluentSql
