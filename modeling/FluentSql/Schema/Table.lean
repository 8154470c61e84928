import FluentSql.Error
import FluentSql.Schema.Column

/-! Table definitions: what a table is created with, or the commands that alter it. -/
namespace FluentSql

inductive SchemaMode where
  | create
  | alter
  deriving DecidableEq

/-- One alteration. Columns and foreign keys are named by their place in the definition. -/
inductive AlterCommand where
  | addColumn (index : Nat)
  | modifyColumn (index : Nat)
  | dropColumn (name : String)
  | renameColumn (source target : String)
  | addIndex (index : Index)
  | dropIndex (name : String)
  | addPrimaryKey (columns : List String)
  | addForeignKey (index : Nat)
  | dropForeignKey (name : String)
  | renameTable (target : String)
  | changeEngine (engine : String)
  | changeCharset (charset : String) (collation? : Option String)
  deriving DecidableEq

structure Schema where
  name : String
  mode : SchemaMode
  columns : List ColumnDef
  primaryKey : List String
  uniqueKeys : List (String × List String)
  indexes : List Index
  foreignKeys : List ForeignKey
  engine : String
  charset : String
  collation : String
  comment? : Option String
  temporary : Bool
  ifNotExists : Bool
  commands : List AlterCommand
  deriving DecidableEq

namespace Schema

def defaultEngine : String := "InnoDB"

def defaultCharset : String := "utf8mb4"

def defaultCollation : String := "utf8mb4_unicode_ci"

def empty (mode : SchemaMode) (name : String) : Schema where
  name := name
  mode := mode
  columns := []
  primaryKey := []
  uniqueKeys := []
  indexes := []
  foreignKeys := []
  engine := defaultEngine
  charset := defaultCharset
  collation := defaultCollation
  comment? := none
  temporary := false
  ifNotExists := false
  commands := []

def command (schema : Schema) (command : AlterCommand) : Schema :=
  { schema with commands := schema.commands ++ [command] }

/-- Record a command while altering; a definition that creates has none. -/
def whenAltering (schema : Schema) (command : AlterCommand) : Schema :=
  match schema.mode with
  | .create => schema
  | .alter => schema.command command

def addColumn (schema : Schema) (column : ColumnDef) : Schema :=
  { schema with columns := schema.columns ++ [column] }.whenAltering
    (.addColumn schema.columns.length)

/-- Change the definition of a column that the table already has. -/
def modifyColumn (schema : Schema) (column : ColumnDef) : Schema :=
  { schema with columns := schema.columns ++ [column] }.command
    (.modifyColumn schema.columns.length)

def setPrimaryKey (schema : Schema) (columns : List String) : Schema :=
  match schema.mode with
  | .create => { schema with primaryKey := columns }
  | .alter => schema.command (.addPrimaryKey columns)

def addUniqueKey (schema : Schema) (name : String) (columns : List String) : Schema :=
  match schema.mode with
  | .create => { schema with uniqueKeys := schema.uniqueKeys ++ [(name, columns)] }
  | .alter => schema.command (.addIndex ⟨name, columns, .unique⟩)

def addIndex (schema : Schema) (index : Index) : Schema :=
  match schema.mode with
  | .create => { schema with indexes := schema.indexes ++ [index] }
  | .alter => schema.command (.addIndex index)

/-- A unique index named after the table and its columns. -/
def addUniqueIndex (schema : Schema) (columns : List String) : Schema :=
  schema.addIndex ⟨schema.name ++ "_" ++ Text.join "_" columns ++ "_unique", columns, .unique⟩

/-- A foreign key named after the table and its column, then changed by `modifiers`. -/
def addForeignKey (schema : Schema) (column refTable refColumn : String)
    (modifiers : List ForeignKeyModifier) : Schema :=
  let key : ForeignKey :=
    ⟨"fk_" ++ schema.name ++ "_" ++ column, column, refTable, refColumn, none, none⟩
  { schema with foreignKeys := schema.foreignKeys ++ [modifiers.foldl ForeignKey.modify key]
    }.whenAltering (.addForeignKey schema.foreignKeys.length)

def column (schema : Schema) (name : String) (type : ColumnType)
    (modifiers : List ColumnModifier) : Schema :=
  schema.addColumn ((ColumnDef.ofType name type).modifyAll modifiers)

/-- Nullable creation and update times. -/
def timestamps (schema : Schema) : Schema :=
  (schema.column "created_at" .timestamp [.nullable]).column "updated_at" .timestamp [.nullable]

/-- A nullable deletion time. -/
def softDeletes (schema : Schema) : Schema :=
  schema.column "deleted_at" .timestamp [.nullable]

/-- The id and the type of a row of any table, with an index over both. -/
def morphs (schema : Schema) (name : String) : Schema :=
  let id := name ++ "_id"
  let type := name ++ "_type"
  ((schema.column id .bigInteger [.unsigned]).column type (.string 255) []).addIndex
    ⟨name ++ "_index", [id, type], .plain⟩

/-- Who created, updated and deleted a row, and when. -/
def audit (schema : Schema) : Schema :=
  let actor (schema : Schema) (name : String) : Schema :=
    schema.column name .bigInteger [.unsigned, .nullable]
  (actor (actor (actor schema "created_by") "updated_by") "deleted_by").timestamps.softDeletes

end Schema
end FluentSql
