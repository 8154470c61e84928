import FluentSql.Dialect.Basic
import FluentSql.Schema.Column

/-! Column definitions in the backends' own words. -/
namespace FluentSql

namespace Dialect

def measured (type : String) (length : Nat) : String :=
  type ++ "(" ++ Text.natText length ++ ")"

def decimalType (type : String) (precision scale : Nat) : String :=
  type ++ "(" ++ Text.natText precision ++ ", " ++ Text.natText scale ++ ")"

def mySqlType : ColumnType → String
  | .bigIncrements | .bigInteger => "BIGINT"
  | .increments | .integer => "INT"
  | .tinyInteger => "TINYINT"
  | .smallInteger => "SMALLINT"
  | .string length => measured "VARCHAR" length
  | .char length => measured "CHAR" length
  | .text => "TEXT"
  | .longText => "LONGTEXT"
  | .boolean => "TINYINT(1)"
  | .float => "FLOAT"
  | .double => "DOUBLE"
  | .decimal precision scale => decimalType "DECIMAL" precision scale
  | .date => "DATE"
  | .time => "TIME"
  | .dateTime => "DATETIME"
  | .timestamp => "TIMESTAMP"
  | .json => "JSON"
  | .uuid => "CHAR(36)"
  | .binary => "BLOB"
  | .enumeration values => "ENUM(" ++ Text.commaList (values.map Text.quoted) ++ ")"

def postgresType (counts : Bool) : ColumnType → String
  | .bigIncrements => "BIGSERIAL"
  | .increments => "SERIAL"
  | .bigInteger => if counts then "BIGSERIAL" else "BIGINT"
  | .integer => if counts then "SERIAL" else "INTEGER"
  | .tinyInteger | .smallInteger => "SMALLINT"
  | .string length => measured "VARCHAR" length
  | .char length => measured "CHAR" length
  | .text | .longText => "TEXT"
  | .boolean => "BOOLEAN"
  | .float => "REAL"
  | .double => "DOUBLE PRECISION"
  | .decimal precision scale => decimalType "NUMERIC" precision scale
  | .date => "DATE"
  | .time => "TIME"
  | .dateTime => "TIMESTAMP"
  | .timestamp => "TIMESTAMPTZ"
  | .json => "JSONB"
  | .uuid => "UUID"
  | .binary => "BYTEA"
  | .enumeration _ => "VARCHAR(255)"

def sqliteType : ColumnType → String
  | .bigIncrements | .increments | .tinyInteger | .smallInteger | .integer | .bigInteger
  | .boolean => "INTEGER"
  | .string length => measured "VARCHAR" length
  | .char length => measured "CHAR" length
  | .text | .longText | .json | .enumeration _ => "TEXT"
  | .uuid => "CHAR(36)"
  | .float | .double => "REAL"
  | .decimal _ _ => "NUMERIC"
  | .date => "DATE"
  | .time => "TIME"
  | .dateTime | .timestamp => "DATETIME"
  | .binary => "BLOB"

def columnType (dialect : Dialect) (column : ColumnDef) : String :=
  match dialect with
  | .mySql =>
    if column.unsigned then mySqlType column.type ++ " UNSIGNED" else mySqlType column.type
  | .postgres => postgresType column.autoIncrement column.type
  | .sqlite => sqliteType column.type

/-- A condition that keeps an enumeration column to its values. -/
def enumerationCheck? (column : ColumnDef) : Option String :=
  match column.type with
  | .enumeration values =>
    some ("CHECK (" ++ column.name ++ " IN (" ++ Text.commaList (values.map Text.quoted) ++ "))")
  | _ => none

/-- The last clause of a column: MySQL's comment, elsewhere the check of an enumeration. -/
def columnSuffix? (dialect : Dialect) (column : ColumnDef) : Option String :=
  match dialect with
  | .mySql => column.comment?.map fun comment => "COMMENT " ++ Text.quoted comment
  | _ => enumerationCheck? column

def standardDefinition (dialect : Dialect) (column : ColumnDef) : String :=
  let default := match column.default? with
    | some value => " DEFAULT " ++ value.sql
    | none => ""
  let counting := match dialect.autoIncrementKeyword? with
    | some keyword => if column.autoIncrement then " " ++ keyword else ""
    | none => ""
  let suffix := match dialect.columnSuffix? column with
    | some suffix => " " ++ suffix
    | none => ""
  column.name ++ " " ++ dialect.columnType column ++
    (if column.nullable then " NULL" else " NOT NULL") ++ default ++ counting ++
    (if column.primary then " PRIMARY KEY" else "") ++ (if column.unique then " UNIQUE" else "") ++
    suffix

/-- One column, as it is created or added. SQLite counts only keys of one fixed spelling. -/
def columnDefinition (dialect : Dialect) (column : ColumnDef) : String :=
  if dialect = .sqlite && column.autoIncrement && column.primary then
    column.name ++ " INTEGER PRIMARY KEY AUTOINCREMENT"
  else dialect.standardDefinition column

end Dialect
end FluentSql
