import FluentSql.Dialect.Tables

/-! The texts of columns and tables part by part. A part that may be missing is empty then. -/
namespace FluentSql

/-- The statement that comments a column of a table. -/
def ColumnDef.commentOn? (column : ColumnDef) (table : String) : Option String :=
  column.comment?.map fun comment =>
    "COMMENT ON COLUMN " ++ table ++ "." ++ column.name ++ " IS " ++ Text.quoted comment

namespace Dialect

theorem standardDefinition_eq (dialect : Dialect) (column : ColumnDef) :
    dialect.standardDefinition column =
      column.name ++ " " ++ dialect.columnType column ++
        (if column.nullable then " NULL" else " NOT NULL") ++
        column.default?.elim "" (" DEFAULT " ++ ·.sql) ++
        dialect.autoIncrementKeyword?.elim ""
          (fun keyword => if column.autoIncrement then " " ++ keyword else "") ++
        (if column.primary then " PRIMARY KEY" else "") ++
        (if column.unique then " UNIQUE" else "") ++
        (dialect.columnSuffix? column).elim "" (" " ++ ·) := by
  unfold standardDefinition
  cases column.default? <;> cases dialect.autoIncrementKeyword? <;>
    cases dialect.columnSuffix? column <;> rfl

theorem positioned_eq (dialect : Dialect) (column : ColumnDef) :
    dialect.positioned column =
      dialect.columnDefinition column ++ column.after?.elim "" (" AFTER " ++ ·) := by
  unfold positioned
  cases column.after? <;> rfl

theorem modifyClauses_eq (column : ColumnDef) :
    modifyClauses column =
      ["ALTER COLUMN " ++ column.name ++ " TYPE " ++ Dialect.postgres.columnType column,
        "ALTER COLUMN " ++ column.name ++
          (if column.nullable then " DROP NOT NULL" else " SET NOT NULL")] ++
        (column.default?.map fun value =>
          "ALTER COLUMN " ++ column.name ++ " SET DEFAULT " ++ value.sql).toList := by
  unfold modifyClauses
  cases column.default? <;> rfl

theorem tableOptions_eq (schema : Schema) :
    tableOptions schema =
      " ENGINE=" ++ schema.engine ++ " DEFAULT CHARSET=" ++ schema.charset ++ " COLLATE=" ++
        schema.collation ++ schema.comment?.elim "" (" COMMENT=" ++ Text.quoted ·) := by
  unfold tableOptions
  cases schema.comment? <;> rfl

theorem commentStatements_eq (schema : Schema) :
    commentStatements schema =
      (schema.comment?.map fun comment =>
        "COMMENT ON TABLE " ++ schema.name ++ " IS " ++ Text.quoted comment).toList ++
      schema.columns.filterMap (·.commentOn? schema.name) := by
  unfold commentStatements
  cases schema.comment? <;> rfl

end Dialect
end FluentSql
