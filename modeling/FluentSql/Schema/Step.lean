import FluentSql.Schema.Table

/-! Table definitions built call by call. -/
namespace FluentSql

namespace Schema

/-- One call on a table definition. -/
inductive Step where
  | column (name : String) (type : ColumnType) (modifiers : List ColumnModifier)
  | modifyColumn (name : String) (type : ColumnType) (modifiers : List ColumnModifier)
  | foreignKey (column refTable refColumn : String) (modifiers : List ForeignKeyModifier)
  | timestamps
  | softDeletes
  | morphs (name : String)
  | audit
  | primaryKey (columns : List String)
  | uniqueKey (name : String) (columns : List String)
  | uniqueIndex (columns : List String)
  | index (name : String) (columns : List String)
  | fullText (name : String) (columns : List String)
  | engine (engine : String)
  | charset (charset : String)
  | collate (collation : String)
  | comment (text : String)
  | temporary
  | ifNotExists
  | dropColumn (name : String)
  | renameColumn (source target : String)
  | addIndex (name : String) (columns : List String) (unique : Bool)
  | dropIndex (name : String)
  | dropForeignKey (name : String)
  | renameTable (target : String)
  | changeEngine (engine : String)
  | changeCharset (charset : String) (collation? : Option String)
  deriving DecidableEq

def apply (schema : Schema) : Step → Schema
  | .column name type modifiers =>
    schema.addColumn ((ColumnDef.ofType name type).modifyAll modifiers)
  | .modifyColumn name type modifiers =>
    schema.modifyColumn ((ColumnDef.ofType name type).modifyAll modifiers)
  | .foreignKey column refTable refColumn modifiers =>
    schema.addForeignKey column refTable refColumn modifiers
  | .timestamps => schema.timestamps
  | .softDeletes => schema.softDeletes
  | .morphs name => schema.morphs name
  | .audit => schema.audit
  | .primaryKey columns => schema.setPrimaryKey columns
  | .uniqueKey name columns => schema.addUniqueKey name columns
  | .uniqueIndex columns => schema.addUniqueIndex columns
  | .index name columns => schema.addIndex ⟨name, columns, .plain⟩
  | .fullText name columns => schema.addIndex ⟨name, columns, .fullText⟩
  | .engine engine => { schema with engine := engine }
  | .charset charset => { schema with charset := charset }
  | .collate collation => { schema with collation := collation }
  | .comment text => { schema with comment? := some text }
  | .temporary => { schema with temporary := true }
  | .ifNotExists => { schema with ifNotExists := true }
  | .dropColumn name => schema.command (.dropColumn name)
  | .renameColumn source target => schema.command (.renameColumn source target)
  | .addIndex name columns unique =>
    schema.command (.addIndex ⟨name, columns, if unique then .unique else .plain⟩)
  | .dropIndex name => schema.command (.dropIndex name)
  | .dropForeignKey name => schema.command (.dropForeignKey name)
  | .renameTable target => schema.command (.renameTable target)
  | .changeEngine engine => schema.command (.changeEngine engine)
  | .changeCharset charset collation? => schema.command (.changeCharset charset collation?)

def ofSteps (mode : SchemaMode) (name : String) (steps : List Step) : Schema :=
  steps.foldl apply (empty mode name)

end Schema
end FluentSql
