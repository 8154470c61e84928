import FluentSql.Proofs.Schema.Grouping
import FluentSql.Proofs.Schema.Wording

/-! Columns that a table is created with, and the same columns when they are added to it. Both ways
write one definition for each column, in the order of the calls. What PostgreSQL is told about a
column in a statement of its own, it is told only of columns of a new table. -/
namespace FluentSql

/-- A call that defines a column. -/
structure ColumnCall where
  name : String
  type : ColumnType
  modifiers : List ColumnModifier

namespace ColumnCall

def step (call : ColumnCall) : Schema.Step := .column call.name call.type call.modifiers

def column (call : ColumnCall) : ColumnDef :=
  (ColumnDef.ofType call.name call.type).modifyAll call.modifiers

end ColumnCall

namespace Dialect

/-- Where MySQL puts an added column among the others; no other backend is told. -/
def position (dialect : Dialect) (column : ColumnDef) : String :=
  match dialect with
  | .mySql => column.after?.elim "" (" AFTER " ++ ·)
  | _ => ""

/-- The clause that adds a column. -/
def addition (dialect : Dialect) (column : ColumnDef) : AlterClause :=
  .change ("ADD COLUMN " ++ (dialect.columnDefinition column ++ dialect.position column))

/-- What backends are told of a new table whose options are all left alone. -/
def plainOptions (dialect : Dialect) : String :=
  match dialect with
  | .mySql =>
    " ENGINE=" ++ Schema.defaultEngine ++ " DEFAULT CHARSET=" ++ Schema.defaultCharset ++
      " COLLATE=" ++ Schema.defaultCollation
  | _ => ""

/-- The statements of their own that comment the columns of a new table. -/
def remarks (dialect : Dialect) (table : String) (columns : List ColumnDef) : List String :=
  if dialect = .postgres then columns.filterMap (·.commentOn? table) else []

/-- The statements that create a table with columns and nothing else. -/
def creation (dialect : Dialect) (table : String) (columns : List ColumnDef) : List String :=
  ("CREATE TABLE " ++ table ++ " (" ++ Text.commaList (columns.map dialect.columnDefinition) ++
    ")" ++ dialect.plainOptions) :: dialect.remarks table columns

end Dialect

/-- Whether a statement comments a column. -/
def commentsColumn (sql : String) : Bool :=
  "COMMENT ON COLUMN ".toList.isPrefixOf sql.toList

def columnComments (statements : List String) : List String := statements.filter commentsColumn

/-- A new table's columns are commented behind the statement that creates it. -/
theorem columnComments_creation (dialect : Dialect) (table : String) (columns : List ColumnDef) :
    columnComments (dialect.creation table columns) = dialect.remarks table columns := by
  have creates (rest : String) : ¬ commentsColumn ("CREATE TABLE " ++ rest) := by
    simp [commentsColumn]
  have comments : ∀ sql ∈ dialect.remarks table columns, commentsColumn sql := by
    intro sql member
    unfold Dialect.remarks at member
    split at member
    · obtain ⟨column, -, commented⟩ := List.mem_filterMap.mp member
      obtain ⟨comment, -, rfl⟩ := Option.map_eq_some_iff.mp commented
      simp only [commentsColumn, String.append_assoc, String.toList_append]
      exact List.isPrefixOf_iff_prefix.mpr (List.prefix_append _ _)
    · cases member
  simp only [columnComments, Dialect.creation, String.append_assoc]
  rw [List.filter_cons_of_neg (creates _), List.filter_eq_self.mpr comments]

theorem Dialect.remarks_eq_nil_iff {dialect : Dialect} {table : String} {columns : List ColumnDef} :
    dialect.remarks table columns = [] ↔
      (dialect = .postgres → ∀ column ∈ columns, column.comment? = none) := by
  unfold remarks
  split
  · rename_i tells
    simp [tells, ColumnDef.commentOn?]
  · rename_i silent
    simp [silent]

/-- No alteration comments a column. -/
theorem columnComments_alterations (statements : List AlterStatement) :
    columnComments (statements.map AlterStatement.text) = [] := by
  refine List.filter_eq_nil_iff.mpr (List.forall_mem_map.mpr fun statement _ => ?_)
  cases statement with
  | alterTable table clauses =>
    have begins : (AlterStatement.alterTable table clauses).text =
        "ALTER TABLE " ++ _ ++ _ ++ _ := rfl
    simp [commentsColumn, begins]
  | createIndex table index =>
    have begins : (AlterStatement.createIndex table index).text =
        "CREATE " ++ _ ++ _ ++ _ ++ _ ++ _ ++ _ ++ _ ++ _ := rfl
    simp [commentsColumn, begins]
  | dropIndex name =>
    have begins : (AlterStatement.dropIndex name).text = "DROP INDEX " ++ name := rfl
    simp [commentsColumn, begins]

namespace Schema

/-- Columns of a definition that creates are pushed, and nothing is recorded. -/
theorem ofSteps_columns_create (name : String) (calls : List ColumnCall) :
    ofSteps .create name (calls.map ColumnCall.step) =
      { empty .create name with columns := calls.map ColumnCall.column } := by
  have run (columns : List ColumnDef) :
      (calls.map ColumnCall.step).foldl apply { empty .create name with columns := columns } =
        { empty .create name with columns := columns ++ calls.map ColumnCall.column } := by
    induction calls generalizing columns with
    | nil => simp
    | cons call rest ih =>
      refine (ih (columns ++ [call.column])).trans ?_
      rw [List.append_assoc]
      rfl
  exact run []

/-- Those of one that alters are pushed, and each is recorded by its place. -/
theorem ofSteps_columns_alter (name : String) (calls : List ColumnCall) :
    ofSteps .alter name (calls.map ColumnCall.step) =
      { empty .alter name with
        columns := calls.map ColumnCall.column
        commands := (calls.map ColumnCall.column).zipIdx.map fun entry => .addColumn entry.2 } := by
  have run (columns : List ColumnDef) (commands : List AlterCommand) :
      (calls.map ColumnCall.step).foldl apply
          { empty .alter name with columns := columns, commands := commands } =
        { empty .alter name with
          columns := columns ++ calls.map ColumnCall.column
          commands := commands ++
            ((calls.map ColumnCall.column).zipIdx columns.length).map fun entry =>
              .addColumn entry.2 } := by
    induction calls generalizing columns commands with
    | nil => simp
    | cons call rest ih =>
      refine (ih (columns ++ [call.column]) (commands ++ [.addColumn columns.length])).trans ?_
      simp
  exact run [] []

end Schema

namespace Dialect

variable {dialect : Dialect}

/-- What an added column becomes: one clause, on SQLite in a statement of its own. -/
def added (dialect : Dialect) (table : String) (column : ColumnDef) : Alteration :=
  match dialect with
  | .sqlite => .apart table (dialect.addition column)
  | _ => .clauses [dialect.addition column]

theorem alteration_addColumn {schema : Schema} {column : ColumnDef} {index : Nat}
    (listed : schema.columns[index]? = some column) :
    dialect.alteration schema (.addColumn index) = .ok (dialect.added schema.name column) := by
  have found : columnAt schema index = .ok column := by simp [columnAt, listed]
  have placed (change : ColumnDef → Alteration) :
      (columnAt schema index >>= fun column => pure (change column)) = .ok (change column) := by
    rw [found]
    rfl
  have bare : dialect.columnDefinition column ++ "" = dialect.columnDefinition column :=
    String.append_empty
  cases dialect with
  | mySql =>
    refine (placed fun column => .change ("ADD COLUMN " ++ Dialect.mySql.positioned column)).trans ?_
    rw [positioned_eq]
    rfl
  | postgres =>
    refine (placed fun column =>
      .change ("ADD COLUMN " ++ Dialect.postgres.columnDefinition column)).trans ?_
    rw [← bare]
    rfl
  | sqlite =>
    refine (placed fun column => .apart schema.name
      (.change ("ADD COLUMN " ++ Dialect.sqlite.columnDefinition column))).trans ?_
    rw [← bare]
    rfl

/-- Added columns can all be expressed. -/
theorem mapM_addColumn (dialect : Dialect) (schema : Schema) :
    (schema.columns.zipIdx.map fun entry => AlterCommand.addColumn entry.2).mapM
        (dialect.alteration schema) =
      .ok (schema.columns.map (dialect.added schema.name)) := by
  have run (entries : List (ColumnDef × Nat))
      (listed : ∀ entry ∈ entries, schema.columns[entry.2]? = some entry.1) :
      (entries.map fun entry => AlterCommand.addColumn entry.2).mapM (dialect.alteration schema) =
        .ok ((entries.map Prod.fst).map (dialect.added schema.name)) := by
    induction entries with
    | nil => rfl
    | cons entry rest ih =>
      obtain ⟨here, later⟩ := List.forall_mem_cons.mp listed
      rw [List.map_cons, List.mapM_cons, alteration_addColumn here, ih later]
      rfl
  have whole := run schema.columns.zipIdx fun entry => List.mem_zipIdx_iff_getElem?.mp
  rwa [List.zipIdx_map_fst] at whole

/-- However they share statements, each is a clause of its own. -/
theorem parts_grouped_added (dialect : Dialect) (table : String) (columns : List ColumnDef) :
    (grouped table [] (columns.map (dialect.added table))).flatMap AlterStatement.parts =
      columns.map fun column => .alterTable table [dialect.addition column] := by
  have alone (column : ColumnDef) : grouped table [] [dialect.added table column] =
      [.alterTable table [dialect.addition column]] := by
    cases dialect <;> rfl
  rw [parts_grouped, List.map_map]
  induction columns with
  | nil => rfl
  | cons column rest ih => simpa [Function.comp_def, alone, AlterStatement.parts] using ih

theorem tableHead_of_columns (name : String) (columns : List ColumnDef) (body : List String) :
    tableHead { Schema.empty .create name with columns := columns } body =
      "CREATE TABLE " ++ name ++ " (" ++ Text.commaList body ++ ")" := by
  have words : "CREATE " ++ "" ++ "TABLE " ++ "" = "CREATE TABLE " := rfl
  exact congrArg (· ++ name ++ " (" ++ Text.commaList body ++ ")") words

/-- A table is created by its columns' definitions, and on PostgreSQL by their comments. -/
theorem createTable_of_columns (dialect : Dialect) (name : String) (columns : List ColumnDef) :
    (dialect.createTable { Schema.empty .create name with columns := columns }).1 =
      dialect.creation name columns := by
  have body : columns.map dialect.columnDefinition ++
      tableConstraints { Schema.empty .create name with columns := columns } =
        columns.map dialect.columnDefinition := List.append_nil _
  have head := tableHead_of_columns name columns (columns.map dialect.columnDefinition)
  cases dialect with
  | mySql =>
    have options : tableOptions { Schema.empty .create name with columns := columns } =
        Dialect.mySql.plainOptions := String.append_empty
    change [tableHead _ (_ ++ tableConstraints _ ++ []) ++ tableOptions _] = _
    rw [List.append_nil, body, head, options]
    rfl
  | postgres =>
    change (tableHead _ (_ ++ tableConstraints _) :: []) ++ commentStatements _ = _
    rw [body, head, commentStatements_eq]
    simp only [creation, plainOptions, String.append_empty]
    rfl
  | sqlite =>
    change [tableHead _ (_ ++ tableConstraints _)] = _
    rw [body, head]
    simp only [creation, plainOptions, String.append_empty]
    rfl

end Dialect

namespace Schema

theorem render_columns_create (dialect : Dialect) (name : String) (calls : List ColumnCall) :
    ((ofSteps .create name (calls.map ColumnCall.step)).render dialect).result =
      if calls.isEmpty then .error (.validation (.emptyTable name))
      else .ok (dialect.creation name (calls.map ColumnCall.column)) := by
  rw [ofSteps_columns_create]
  cases calls with
  | nil => rfl
  | cons call rest =>
    rw [render_of_creates _ rfl rfl, Dialect.createTable_of_columns]
    rfl

theorem render_columns_alter (dialect : Dialect) (name : String) (calls : List ColumnCall) :
    ((ofSteps .alter name (calls.map ColumnCall.step)).render dialect).result =
      .ok ((Dialect.grouped name [] ((calls.map ColumnCall.column).map (dialect.added name))).map
        AlterStatement.text) := by
  have expressed := Dialect.mapM_addColumn dialect
    { empty .alter name with columns := calls.map ColumnCall.column }
  have alters : mode { empty .alter name with columns := calls.map ColumnCall.column } = .alter :=
    rfl
  rw [ofSteps_columns_alter]
  refine (render_commands alters dialect _).trans ?_
  rw [expressed]
  rfl

/-- What a created and an altered table are told of the same columns: one definition for each of
them, in the order of the calls and up to the place that MySQL gives an added column. They are told
the same comments exactly where PostgreSQL has none to be told: what it is told of the columns of a
new table, it is never told of columns that are added. -/
theorem columns_described_alike_iff (dialect : Dialect) (name : String) (calls : List ColumnCall) :
    ((ofSteps .create name (calls.map ColumnCall.step)).render dialect).result =
        (if calls.isEmpty then .error (.validation (.emptyTable name))
          else .ok (dialect.creation name (calls.map ColumnCall.column))) ∧
      ∃ statements : List AlterStatement,
        ((ofSteps .alter name (calls.map ColumnCall.step)).render dialect).result =
          .ok (statements.map AlterStatement.text) ∧
        statements.flatMap AlterStatement.parts = calls.map (fun call =>
          .alterTable name [.change ("ADD COLUMN " ++
            (dialect.columnDefinition call.column ++ dialect.position call.column))]) ∧
        columnComments (statements.map AlterStatement.text) = [] ∧
        columnComments (dialect.creation name (calls.map ColumnCall.column)) =
          dialect.remarks name (calls.map ColumnCall.column) ∧
        (columnComments (statements.map AlterStatement.text) =
            columnComments (dialect.creation name (calls.map ColumnCall.column)) ↔
          (dialect = .postgres → ∀ call ∈ calls, call.column.comment? = none)) := by
  refine ⟨render_columns_create dialect name calls, _, render_columns_alter dialect name calls,
    ?_, columnComments_alterations _, columnComments_creation _ _ _, ?_⟩
  · rw [Dialect.parts_grouped_added, List.map_map]
    rfl
  · rw [columnComments_alterations, columnComments_creation, eq_comm, Dialect.remarks_eq_nil_iff]
    simp

/-- The comment of an added column is neither in PostgreSQL's statements nor reported. -/
theorem added_comment_is_lost :
    (ofSteps .create "users" [.column "name" (.string 100) [.comment "display name"]]).render
      .postgres =
        ⟨.ok ["CREATE TABLE users (name VARCHAR(100) NOT NULL)",
          "COMMENT ON COLUMN users.name IS 'display name'"], []⟩ ∧
    (ofSteps .alter "users" [.column "name" (.string 100) [.comment "display name"]]).render
      .postgres = ⟨.ok ["ALTER TABLE users ADD COLUMN name VARCHAR(100) NOT NULL"], []⟩ ∧
    columnComments ["ALTER TABLE users ADD COLUMN name VARCHAR(100) NOT NULL"] ≠
      columnComments ["CREATE TABLE users (name VARCHAR(100) NOT NULL)",
        "COMMENT ON COLUMN users.name IS 'display name'"] :=
  ⟨rfl, rfl, by decide⟩

end Schema
end FluentSql
