import FluentSql.Schema.Step
import FluentSql.Script.Values

/-! Schema calls in scripts, and what a table definition holds. -/
namespace FluentSql.Script

def columnType (json : Json) : Reading ColumnType := do
  match json with
  | .array [.string "string", n] => pure (.string (← nat n))
  | .array [.string "char", n] => pure (.char (← nat n))
  | .array [.string "decimal", p, s] => pure (.decimal (← nat p) (← nat s))
  | .array [.string "enum", vs] => pure (.enumeration (← strings vs))
  | .array [name] => plain (← string name)
  | name => plain (← string name)
where
  plain : String → Reading ColumnType
    | "big_increments" => .ok .bigIncrements
    | "increments" => .ok .increments
    | "tiny_integer" => .ok .tinyInteger
    | "small_integer" => .ok .smallInteger
    | "integer" => .ok .integer
    | "big_integer" => .ok .bigInteger
    | "text" => .ok .text
    | "long_text" => .ok .longText
    | "boolean" => .ok .boolean
    | "float" => .ok .float
    | "double" => .ok .double
    | "date" => .ok .date
    | "time" => .ok .time
    | "date_time" => .ok .dateTime
    | "timestamp" => .ok .timestamp
    | "json" => .ok .json
    | "uuid" => .ok .uuid
    | "binary" => .ok .binary
    | other => .error ("column type " ++ other)

def modifier (json : Json) : Reading ColumnModifier := do
  match ← list json with
  | [.string "nullable"] => pure .nullable
  | [.string "not_null"] => pure .notNull
  | [.string "default", v] => pure (.default (← value v))
  | [.string "default_raw", text] => pure (.defaultRaw (← string text))
  | [.string "unsigned"] => pure .unsigned
  | [.string "auto_increment"] => pure .autoIncrement
  | [.string "primary"] => pure .primary
  | [.string "unique"] => pure .unique
  | [.string "comment", text] => pure (.comment (← string text))
  | [.string "after", name] => pure (.after (← string name))
  | _ => .error ("modifier " ++ json.print)

def modifiers : List Json → Reading (List ColumnModifier)
  | [] => .ok []
  | mods :: _ => listOf modifier mods

def action (json : Json) : Reading ReferenceAction := do
  match ← string json with
  | "cascade" => pure .cascade
  | "set_null" => pure .setNull
  | "set_default" => pure .setDefault
  | "restrict" => pure .restrict
  | "no_action" => pure .noAction
  | other => .error ("reference action " ++ other)

def keyModifier (json : Json) : Reading ForeignKeyModifier := do
  match ← list json with
  | [.string "on_delete", a] => pure (.onDelete (← action a))
  | [.string "on_update", a] => pure (.onUpdate (← action a))
  | [.string "named", name] => pure (.named (← string name))
  | _ => .error ("foreign key modifier " ++ json.print)

def schemaStep (json : Json) : Reading Schema.Step := do
  match ← list json with
  | .string "id" :: mods => pure (.column "id" .bigIncrements (← modifiers mods))
  | .string "string" :: name :: n :: mods =>
    pure (.column (← string name) (.string (← nat n)) (← modifiers mods))
  | .string "char" :: name :: n :: mods =>
    pure (.column (← string name) (.char (← nat n)) (← modifiers mods))
  | .string "decimal" :: name :: p :: s :: mods =>
    pure (.column (← string name) (.decimal (← nat p) (← nat s)) (← modifiers mods))
  | .string "enumeration" :: name :: vs :: mods =>
    pure (.column (← string name) (.enumeration (← strings vs)) (← modifiers mods))
  | .string "column" :: name :: type :: mods =>
    pure (.column (← string name) (← columnType type) (← modifiers mods))
  | .string "modify_column" :: name :: type :: mods =>
    pure (.modifyColumn (← string name) (← columnType type) (← modifiers mods))
  | .string "foreign_key" :: column :: table :: target :: mods =>
    let changes ← match mods with
      | [] => pure []
      | mods :: _ => listOf keyModifier mods
    pure (.foreignKey (← string column) (← string table) (← string target) changes)
  | [.string "timestamps"] => pure .timestamps
  | [.string "soft_deletes"] => pure .softDeletes
  | [.string "morphs", name] => pure (.morphs (← string name))
  | [.string "audit"] => pure .audit
  | [.string "primary_key", cols] => pure (.primaryKey (← strings cols))
  | [.string "unique_key", name, cols] => pure (.uniqueKey (← string name) (← strings cols))
  | [.string "unique_index", cols] => pure (.uniqueIndex (← strings cols))
  | [.string "index", name, cols] => pure (.index (← string name) (← strings cols))
  | [.string "full_text", name, cols] => pure (.fullText (← string name) (← strings cols))
  | [.string "engine", text] => pure (.engine (← string text))
  | [.string "charset", text] => pure (.charset (← string text))
  | [.string "collate", text] => pure (.collate (← string text))
  | [.string "comment", text] => pure (.comment (← string text))
  | [.string "temporary"] => pure .temporary
  | [.string "if_not_exists"] => pure .ifNotExists
  | [.string "drop_column", name] => pure (.dropColumn (← string name))
  | [.string "rename_column", a, b] => pure (.renameColumn (← string a) (← string b))
  | [.string "add_index", name, cols, unique] =>
    pure (.addIndex (← string name) (← strings cols) (← bool unique))
  | [.string "drop_index", name] => pure (.dropIndex (← string name))
  | [.string "drop_foreign_key", name] => pure (.dropForeignKey (← string name))
  | [.string "rename_table", name] => pure (.renameTable (← string name))
  | [.string "change_engine", engine] => pure (.changeEngine (← string engine))
  | [.string "change_charset", charset, .null] => pure (.changeCharset (← string charset) none)
  | [.string "change_charset", charset, collation] =>
    pure (.changeCharset (← string charset) (some (← string collation)))
  | .string type :: name :: mods =>
    pure (.column (← string name) (← columnType (.string type)) (← modifiers mods))
  | _ => .error ("schema step " ++ json.print)

/-- What a table definition holds. -/
def schemaDump (schema : Schema) : Json :=
  let column (column : ColumnDef) : Json := object [
    ("name", .string column.name), ("increments", .bool column.type.isIncrements),
    ("nullable", .bool column.nullable), ("unsigned", .bool column.unsigned),
    ("auto_increment", .bool column.autoIncrement), ("primary", .bool column.primary),
    ("unique", .bool column.unique),
    ("default", optional (fun value => .string value.sql) column.default?),
    ("comment", optional .string column.comment?), ("after", optional .string column.after?)]
  let kind : IndexKind → String
    | .plain => "plain"
    | .unique => "unique"
    | .fullText => "full_text"
  object [
    ("name", .string schema.name), ("create", .bool (schema.mode = .create)),
    ("columns", .array (schema.columns.map column)),
    ("primary_key", stringsJson schema.primaryKey),
    ("unique_keys", .array (schema.uniqueKeys.map fun key =>
      .array [.string key.1, stringsJson key.2])),
    ("indexes", .array (schema.indexes.map fun index =>
      .array [.string index.name, stringsJson index.columns, .string (kind index.kind)])),
    ("foreign_keys", .array (schema.foreignKeys.map fun key =>
      .array [.string key.name, .string key.sql])),
    ("engine", .string schema.engine), ("charset", .string schema.charset),
    ("collation", .string schema.collation), ("comment", optional .string schema.comment?),
    ("temporary", .bool schema.temporary), ("if_not_exists", .bool schema.ifNotExists),
    ("commands", natural schema.commands.length)]

end FluentSql.Script
