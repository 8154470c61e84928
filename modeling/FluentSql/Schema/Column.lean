import FluentSql.Value.Literal

/-! Columns, indexes and foreign keys of table definitions. -/
namespace FluentSql

/-- Column types as a definition names them; every backend has its own spelling. -/
inductive ColumnType where
  | bigIncrements
  | increments
  | tinyInteger
  | smallInteger
  | integer
  | bigInteger
  | string (length : Nat)
  | char (length : Nat)
  | text
  | longText
  | boolean
  | float
  | double
  | decimal (precision scale : Nat)
  | date
  | time
  | dateTime
  | timestamp
  | json
  | uuid
  | binary
  | enumeration (values : List String)
  deriving DecidableEq

def ColumnType.isIncrements : ColumnType → Bool
  | .bigIncrements => true
  | .increments => true
  | _ => false

/-- A default is a value, written as a literal, or an expression taken as it is. -/
inductive ColumnDefault where
  | value (value : Value)
  | raw (expr : String)
  deriving DecidableEq

def ColumnDefault.sql : ColumnDefault → String
  | .value content => content.literal
  | .raw expr => expr

structure ColumnDef where
  name : String
  type : ColumnType
  nullable : Bool
  default? : Option ColumnDefault
  unsigned : Bool
  autoIncrement : Bool
  primary : Bool
  unique : Bool
  comment? : Option String
  after? : Option String
  deriving DecidableEq

/-- A plain column; an incrementing one is an unsigned primary key from the start. -/
def ColumnDef.ofType (name : String) (type : ColumnType) : ColumnDef where
  name := name
  type := type
  nullable := false
  default? := none
  unsigned := type.isIncrements
  autoIncrement := type.isIncrements
  primary := type.isIncrements
  unique := false
  comment? := none
  after? := none

/-- One change to a column under definition. -/
inductive ColumnModifier where
  | nullable
  | notNull
  | default (value : Value)
  | defaultRaw (expr : String)
  | unsigned
  | autoIncrement
  | primary
  | unique
  | comment (text : String)
  | after (column : String)
  deriving DecidableEq

namespace ColumnDef

def modify (column : ColumnDef) : ColumnModifier → ColumnDef
  | .nullable => { column with nullable := true }
  | .notNull => { column with nullable := false }
  | .default value => { column with default? := some (.value value) }
  | .defaultRaw expr => { column with default? := some (.raw expr) }
  | .unsigned => { column with unsigned := true }
  | .autoIncrement => { column with autoIncrement := true }
  | .primary => { column with primary := true }
  | .unique => { column with unique := true }
  | .comment text => { column with comment? := some text }
  | .after name => { column with after? := some name }

def modifyAll (column : ColumnDef) (modifiers : List ColumnModifier) : ColumnDef :=
  modifiers.foldl modify column

end ColumnDef

inductive IndexKind where
  | plain
  | unique
  | fullText
  deriving DecidableEq

structure Index where
  name : String
  columns : List String
  kind : IndexKind
  deriving DecidableEq

/-- What happens to referring rows. -/
inductive ReferenceAction where
  | cascade
  | setNull
  | setDefault
  | restrict
  | noAction
  deriving DecidableEq

def ReferenceAction.text : ReferenceAction → String
  | .cascade => "CASCADE"
  | .setNull => "SET NULL"
  | .setDefault => "SET DEFAULT"
  | .restrict => "RESTRICT"
  | .noAction => "NO ACTION"

structure ForeignKey where
  name : String
  column : String
  refTable : String
  refColumn : String
  onDelete? : Option ReferenceAction
  onUpdate? : Option ReferenceAction
  deriving DecidableEq

/-- One change to a foreign key under definition. -/
inductive ForeignKeyModifier where
  | onDelete (action : ReferenceAction)
  | onUpdate (action : ReferenceAction)
  | named (name : String)
  deriving DecidableEq

namespace ForeignKey

def modify (key : ForeignKey) : ForeignKeyModifier → ForeignKey
  | .onDelete action => { key with onDelete? := some action }
  | .onUpdate action => { key with onUpdate? := some action }
  | .named name => { key with name := name }

def sql (key : ForeignKey) : String :=
  let action (event : String) : Option ReferenceAction → String
    | some action => event ++ action.text
    | none => ""
  "CONSTRAINT " ++ key.name ++ " FOREIGN KEY (" ++ key.column ++ ") REFERENCES " ++ key.refTable ++
    " (" ++ key.refColumn ++ ")" ++ action " ON DELETE " key.onDelete? ++
    action " ON UPDATE " key.onUpdate?

end ForeignKey
end FluentSql
