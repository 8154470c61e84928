import FluentSql.Proofs.Schema.Grouping
import FluentSql.Proofs.Schema.Wording
import FluentSql.Proofs.Text.Template

/-! Where a definition quotes a text: defaults, the values of enumerations and comments. Its
statements depend on the text only where they quote it, and each place is read back on its own. -/
namespace FluentSql

open Template

/-- Where a column has a text. -/
inductive ColumnSlot where
  | default
  | comment
  | enumeration (before behind : List String)

/-- A column with any text there. -/
def ColumnSlot.put (slot : ColumnSlot) (column : ColumnDef) (text : String) : ColumnDef :=
  match slot with
  | .default => { column with default? := some (.value (.text text)) }
  | .comment => { column with comment? := some text }
  | .enumeration before behind => { column with type := .enumeration (before ++ text :: behind) }

namespace Schema

/-- Where a definition has a text. -/
inductive Slot where
  | comment
  | column (before : List ColumnDef) (column : ColumnDef) (own : ColumnSlot)
      (behind : List ColumnDef)

/-- A definition with any text there. -/
def Slot.put (slot : Slot) (schema : Schema) (text : String) : Schema :=
  match slot with
  | .comment => { schema with comment? := some text }
  | .column before changed own behind =>
    { schema with columns := before ++ own.put changed text :: behind }

end Schema

/-! Parts of a definition as families: fixed, or with the text in them. -/

inductive ColumnType.Varies : (String → ColumnType) → Prop where
  | fixed (type : ColumnType) : Varies fun _ => type
  | enumeration (before behind : List String) :
      Varies fun text => .enumeration (before ++ text :: behind)

inductive ColumnDefault.Varies : (String → Option ColumnDefault) → Prop where
  | fixed (default? : Option ColumnDefault) : Varies fun _ => default?
  | text : Varies fun text => some (.value (.text text))

/-- Of a comment. -/
inductive CommentVaries : (String → Option String) → Prop where
  | fixed (comment? : Option String) : CommentVaries fun _ => comment?
  | text : CommentVaries some

inductive ColumnDef.Varies : (String → ColumnDef) → Prop where
  | of (column : ColumnDef) {type : String → ColumnType}
      {default? : String → Option ColumnDefault} {comment? : String → Option String}
      (typeVaries : ColumnType.Varies type) (defaultVaries : ColumnDefault.Varies default?)
      (commentVaries : CommentVaries comment?) :
      Varies fun text =>
        { column with type := type text, default? := default? text, comment? := comment? text }

/-- Of definitions of one table, in one mode. -/
inductive Schema.Varies : (String → Schema) → Prop where
  | of (schema : Schema) {columns : String → List ColumnDef} {comment? : String → Option String}
      (columnsVary : Listed ColumnDef.Varies columns) (commentVaries : CommentVaries comment?) :
      Varies fun text => { schema with columns := columns text, comment? := comment? text }

/-! What is said of a table: families of texts with the quoted text in them. -/

def AlterClause.Varies (clause : String → AlterClause) : Prop :=
  Embeds fun text => (clause text).text

def AlterStatement.Varies (statement : String → AlterStatement) : Prop :=
  Embeds fun text => (statement text).text

theorem ColumnDef.Varies.fixed (column : ColumnDef) : ColumnDef.Varies fun _ => column :=
  .of column (.fixed column.type) (.fixed column.default?) (.fixed column.comment?)

theorem Schema.Varies.exists_base {family : String → Schema} (varies : Schema.Varies family) :
    ∃ schema : Schema, (Listed ColumnDef.Varies fun text => (family text).columns) ∧
      ∀ text, (family text).mode = schema.mode ∧ (family text).name = schema.name ∧
        (family text).commands = schema.commands := by
  obtain ⟨schema, columnsVary, -⟩ := varies
  exact ⟨schema, columnsVary, fun _ => ⟨rfl, rfl, rfl⟩⟩

theorem ColumnSlot.varies_put (slot : ColumnSlot) (column : ColumnDef) :
    ColumnDef.Varies (slot.put column) := by
  cases slot with
  | default => exact .of column (.fixed column.type) .text (.fixed column.comment?)
  | comment => exact .of column (.fixed column.type) (.fixed column.default?) .text
  | enumeration before behind =>
    exact .of column (.enumeration before behind) (.fixed column.default?) (.fixed column.comment?)

theorem Schema.Slot.varies_put (slot : Slot) (schema : Schema) :
    Schema.Varies (slot.put schema) := by
  cases slot with
  | comment => exact .of schema (.fixed fun column _ => .fixed column) .text
  | column before changed own behind =>
    exact .of schema (.around .fixed (own.varies_put changed) before behind)
      (.fixed schema.comment?)

namespace Dialect

/-- One text in a list of quoted ones. -/
theorem embeds_quotedList (before behind : List String) :
    Embeds fun text => Text.commaList ((before ++ text :: behind).map Text.quoted) := by
  have varied : Listed (fun member => Embeds fun text => Text.quoted (member text))
      fun text => before ++ text :: behind := .around (fun _ => .fixed _) .quoted before behind
  exact .commaList (varied.map fun member own => own)

section Columns

variable {dialect : Dialect} {type : String → ColumnType}
  {default? : String → Option ColumnDefault} {comment? : String → Option String}
  {column : String → ColumnDef}

/-- The clause of a default behind other words. -/
theorem tail_default (words : String) (own : opens words = true)
    (varies : ColumnDefault.Varies default?) :
    Tail fun text => (default? text).elim "" (words ++ ·.sql) := by
  cases varies with
  | fixed default? =>
    cases default? with
    | none => exact .empty
    | some value => exact .of_opens own (.fixed value.sql)
  | text => exact .of_opens own .quoted

/-- The clause of a comment. -/
theorem tail_comment (words : String) (own : opens words = true) {body : String → String}
    (embeds : Embeds body) (varies : CommentVaries comment?) :
    Tail fun text => (comment? text).elim "" (words ++ body ·) := by
  cases varies with
  | fixed comment? =>
    cases comment? with
    | none => exact .empty
    | some comment => exact .of_opens own (.fixed (body comment))
  | text => exact .of_opens own embeds

theorem embeds_mySqlType (varies : ColumnType.Varies type) :
    Embeds fun text => mySqlType (type text) := by
  cases varies with
  | fixed type => exact .fixed _
  | enumeration before behind => exact ((embeds_quotedList before behind).after "ENUM(").before rfl

theorem embeds_columnType (dialect : Dialect) (varies : ColumnDef.Varies column) :
    Embeds fun text => dialect.columnType (column text) := by
  obtain ⟨column, typeVaries, -, -⟩ := varies
  cases dialect with
  | mySql =>
    simp only [columnType]
    cases column.unsigned with
    | false => exact embeds_mySqlType typeVaries
    | true => exact (embeds_mySqlType typeVaries).before rfl
  | postgres | sqlite =>
    simp only [columnType]
    cases typeVaries with
    | fixed type => exact .fixed _
    | enumeration before behind => exact .fixed _

theorem tail_enumerationCheck (varies : ColumnDef.Varies column) :
    Tail fun text => (enumerationCheck? (column text)).elim "" (" " ++ ·) := by
  obtain ⟨column, typeVaries, -, -⟩ := varies
  have check {list : String → String} (embeds : Embeds list) :
      Tail fun text => " " ++ ("CHECK (" ++ column.name ++ " IN (" ++ list text ++ "))") :=
    .of_opens rfl ((embeds.after ("CHECK (" ++ column.name ++ " IN (")).before rfl)
  cases typeVaries with
  | fixed type =>
    cases type with
    | enumeration values => exact check (.fixed _)
    | _ => exact .empty
  | enumeration before behind => exact check (embeds_quotedList before behind)

theorem tail_columnSuffix (dialect : Dialect) (varies : ColumnDef.Varies column) :
    Tail fun text => (dialect.columnSuffix? (column text)).elim "" (" " ++ ·) := by
  cases dialect with
  | mySql =>
    obtain ⟨column, -, -, commentVaries⟩ := varies
    simp only [columnSuffix?, Option.elim_map]
    exact tail_comment " " rfl (Embeds.quoted.after "COMMENT ") commentVaries
  | postgres | sqlite => exact tail_enumerationCheck varies

theorem embeds_columnDefinition (dialect : Dialect) (varies : ColumnDef.Varies column) :
    Embeds fun text => dialect.columnDefinition (column text) := by
  have typed := embeds_columnType dialect varies
  have suffixed := tail_columnSuffix dialect varies
  obtain ⟨column, -, defaultVaries, -⟩ := varies
  have nulls : opens (if column.nullable then " NULL" else " NOT NULL") = true := by
    split <;> rfl
  have counting : Tail fun _ => dialect.autoIncrementKeyword?.elim ""
      (fun keyword => if column.autoIncrement then " " ++ keyword else "") := by
    cases dialect.autoIncrementKeyword? with
    | none => exact .empty
    | some keyword =>
      simp only [Option.elim_some]
      split
      · exact .of_opens rfl (.fixed keyword)
      · exact .empty
  have primary : Tail fun _ => if column.primary then " PRIMARY KEY" else "" := by
    split
    · exact .words rfl
    · exact .empty
  have unique : Tail fun _ => if column.unique then " UNIQUE" else "" := by
    split
    · exact .words rfl
    · exact .empty
  have standard := ((((((typed.after (column.name ++ " ")).before nulls).append
    (tail_default " DEFAULT " rfl defaultVaries)).append counting).append
    primary).append unique).append suffixed
  simp only [columnDefinition, standardDefinition_eq]
  split
  · exact .fixed _
  · exact standard

end Columns

/-! Tables that are created. -/

section Created

variable {columns : String → List ColumnDef} {comment? : String → Option String}
  {family : String → Schema}

theorem embeds_tableHead (schema : Schema) {body : String → List String}
    (listed : Listed Embeds body) : Embeds fun text => tableHead schema (body text) :=
  ((Embeds.commaList listed).after _).before rfl

theorem listed_comment (front : String) (varies : CommentVaries comment?) :
    Listed Embeds fun text =>
      ((comment? text).map fun comment => front ++ Text.quoted comment).toList := by
  cases varies with
  | fixed comment? => exact .words _
  | text => exact .singleton (Embeds.quoted.after front)

theorem listed_columnComments (table : String) (columnsVary : Listed ColumnDef.Varies columns) :
    Listed Embeds fun text => (columns text).filterMap (·.commentOn? table) := by
  refine columnsVary.filterMap fun column own => ?_
  obtain ⟨column, -, -, commentVaries⟩ := own
  exact listed_comment ("COMMENT ON COLUMN " ++ table ++ "." ++ column.name ++ " IS ") commentVaries

theorem tail_tableOptions (schema : Schema) (varies : CommentVaries comment?) :
    Tail fun text => tableOptions { schema with comment? := comment? text } := by
  have comment := tail_comment " COMMENT=" rfl .quoted varies
  have behind := ((comment.embeds.after schema.collation).after " COLLATE=").after schema.charset
  simp only [tableOptions_eq, String.append_assoc]
  exact .of_opens rfl ((behind.after " DEFAULT CHARSET=").after schema.engine)

theorem listed_createTable (dialect : Dialect) (varies : Schema.Varies family) :
    Listed Embeds fun text => (dialect.createTable (family text)).1 := by
  obtain ⟨schema, columnsVary, commentVaries⟩ := varies
  have definitions := columnsVary.map fun column own => embeds_columnDefinition dialect own
  have parts := definitions.append (.words (tableConstraints schema))
  have indexed := (Listed.singleton (embeds_tableHead schema parts)).append
    (.words ((schema.indexes.map (dialect.createIndex schema.name)).filterMap Prod.fst))
  cases dialect with
  | mySql =>
    have body := parts.append (.words (schema.indexes.map indexClause))
    have statement := (embeds_tableHead schema body).append (tail_tableOptions schema commentVaries)
    simp only [createTable]
    exact Listed.singleton statement
  | postgres =>
    have remarked := listed_comment ("COMMENT ON TABLE " ++ schema.name ++ " IS ") commentVaries
    have remarks := indexed.append (remarked.append (listed_columnComments schema.name columnsVary))
    simp only [createTable, commentStatements_eq]
    exact remarks
  | sqlite => exact indexed

end Created

/-! Tables that are altered. -/

section Altered

/-- What one command becomes, up to the text that it quotes. -/
inductive Alteration.Varies : (String → Alteration) → Prop where
  | clauses {clauses : String → List AlterClause} (each : Listed AlterClause.Varies clauses) :
      Varies fun text => .clauses (clauses text)
  | statements {statements : String → List AlterStatement}
      (each : Listed AlterStatement.Varies statements) :
      Varies fun text => .statements (statements text)
  | leftOut : Varies fun _ => .leftOut

theorem Alteration.Varies.fixed (own : Alteration) : Alteration.Varies fun _ => own := by
  cases own with
  | clauses clauses => exact .clauses (.fixed fun clause _ => .fixed clause.text)
  | statements statements => exact .statements (.fixed fun statement _ => .fixed statement.text)
  | leftOut => exact .leftOut

variable {columns : String → List ColumnDef} {clause : String → String} {family : String → Schema}

theorem Alteration.Varies.change (embeds : Embeds clause) :
    Alteration.Varies fun text => .change (clause text) := .clauses (.singleton embeds)

theorem embeds_alterTable (table : String) {clauses : String → List AlterClause}
    (each : Listed AlterClause.Varies clauses) :
    Embeds fun text => (AlterStatement.alterTable table (clauses text)).text :=
  (Embeds.commaList (each.map fun _ own => own)).after _

theorem Alteration.Varies.apart (table : String) (embeds : Embeds clause) :
    Alteration.Varies fun text => .apart table (.change (clause text)) :=
  .statements (.singleton (embeds_alterTable table (.singleton embeds)))

theorem uniform_fixed (result : Except Error Alteration) :
    Uniform Alteration.Varies fun _ => result := by
  cases result with
  | error error => exact .error error
  | ok own => exact .ok (.fixed own)

/-- The column at a place is there for every text or for none. -/
theorem uniform_columnAt (varies : Schema.Varies family) (index : Nat) :
    Uniform ColumnDef.Varies fun text => columnAt (family text) index := by
  obtain ⟨schema, ⟨members, each, same⟩, -⟩ := varies
  simp only [columnAt, same, List.getElem?_map]
  cases found : members[index]? with
  | none => exact .error (.missingColumn index)
  | some column => exact .ok (each column (List.mem_of_getElem? found))

theorem embeds_positioned {column : String → ColumnDef} (varies : ColumnDef.Varies column) :
    Embeds fun text => Dialect.mySql.positioned (column text) := by
  have definition := embeds_columnDefinition .mySql varies
  obtain ⟨column, -, -, -⟩ := varies
  have position : Tail fun _ => column.after?.elim "" (" AFTER " ++ ·) := by
    cases column.after? with
    | none => exact .empty
    | some name => exact .of_opens rfl (.fixed name)
  simp only [positioned_eq]
  exact definition.append position

theorem listed_modifyClauses {column : String → ColumnDef} (varies : ColumnDef.Varies column) :
    Listed Embeds fun text => modifyClauses (column text) := by
  have retyped := embeds_columnType .postgres varies
  obtain ⟨column, -, defaultVaries, -⟩ := varies
  have always := (Listed.singleton
    (retyped.after ("ALTER COLUMN " ++ column.name ++ " TYPE "))).append
      (.words ["ALTER COLUMN " ++ column.name ++
        (if column.nullable then " DROP NOT NULL" else " SET NOT NULL")])
  simp only [modifyClauses_eq]
  refine always.append ?_
  cases defaultVaries with
  | fixed default? => exact .words _
  | text =>
    exact .singleton (Embeds.quoted.after ("ALTER COLUMN " ++ column.name ++ " SET DEFAULT "))

/-- What points at no column is the same whatever columns there are. -/
theorem uniform_columnless (dialect : Dialect) (schema : Schema) {command : AlterCommand}
    {comment? : String → Option String} (notAdded : ∀ index, command ≠ .addColumn index)
    (notModified : ∀ index, command ≠ .modifyColumn index) :
    Uniform Alteration.Varies fun text => dialect.alteration
      { schema with columns := columns text, comment? := comment? text } command := by
  have same (text : String) : dialect.alteration
      { schema with columns := columns text, comment? := comment? text } command =
        dialect.alteration schema command := by
    cases command with
    | addColumn index => exact absurd rfl (notAdded index)
    | modifyColumn index => exact absurd rfl (notModified index)
    | _ => cases dialect <;> rfl
  simp only [same]
  exact uniform_fixed _

theorem uniform_alteration (dialect : Dialect) (varies : Schema.Varies family)
    (command : AlterCommand) :
    Uniform Alteration.Varies fun text => dialect.alteration (family text) command := by
  have placed (index : Nat) (change : ColumnDef → Alteration)
      (each : ∀ column, ColumnDef.Varies column →
        Alteration.Varies fun text => change (column text)) :
      Uniform Alteration.Varies fun text =>
        columnAt (family text) index >>= fun column => pure (change column) :=
    (uniform_columnAt varies index).bind fun column own => .ok (each column own)
  obtain ⟨schema, columnsVary, commentVaries⟩ := varies
  cases command with
  | addColumn index =>
    cases dialect with
    | mySql =>
      exact placed index _ fun column own => .change ((embeds_positioned own).after "ADD COLUMN ")
    | postgres =>
      exact placed index _ fun column own =>
        .change ((embeds_columnDefinition .postgres own).after "ADD COLUMN ")
    | sqlite =>
      exact placed index (fun column => .apart schema.name
          (.change ("ADD COLUMN " ++ Dialect.sqlite.columnDefinition column)))
        fun column own => .apart schema.name
          ((embeds_columnDefinition .sqlite own).after "ADD COLUMN ")
  | modifyColumn index =>
    cases dialect with
    | mySql =>
      exact placed index _ fun column own =>
        .change ((embeds_positioned own).after "MODIFY COLUMN ")
    | postgres =>
      exact placed index _ fun column own =>
        .clauses ((listed_modifyClauses own).map fun clause embeds => embeds)
    | sqlite => exact .error _
  | _ => exact uniform_columnless dialect schema nofun nofun

theorem listed_flush (table : String) {clauses : String → List AlterClause}
    (each : Listed AlterClause.Varies clauses) :
    Listed AlterStatement.Varies fun text => flush table (clauses text) := by
  have whole := embeds_alterTable table each
  obtain ⟨members, -, same⟩ := each
  cases members with
  | nil =>
    simp only [same]
    exact .nil
  | cons clause rest =>
    have filled (text : String) :
        flush table (clauses text) = [.alterTable table (clauses text)] := by
      simp [flush, same]
    simp only [filled]
    exact .singleton whole

/-- Which clauses share a statement does not depend on the text. -/
theorem listed_grouped (table : String) {owns : String → List Alteration}
    (vary : Listed Alteration.Varies owns) {pending : String → List AlterClause}
    (each : Listed AlterClause.Varies pending) :
    Listed AlterStatement.Varies fun text => grouped table (pending text) (owns text) := by
  obtain ⟨members, own, same⟩ := vary
  simp only [same]
  clear same
  induction members generalizing pending with
  | nil => exact listed_flush table each
  | cons member rest ih =>
    obtain ⟨here, others⟩ := List.forall_mem_cons.mp own
    cases here with
    | clauses more => exact ih (each.append more) others
    | statements apart => exact ((listed_flush table each).append apart).append (ih .nil others)
    | leftOut => exact ih each others

end Altered

/-- The statements of a definition depend on a text only where they quote it. -/
theorem uniform_render (dialect : Dialect) {family : String → Schema}
    (varies : Schema.Varies family) :
    Uniform (Listed Embeds) fun text => ((family text).render dialect).result := by
  have created := listed_createTable dialect varies
  have altered (commands : List AlterCommand) :=
    Uniform.mapM commands fun command _ => uniform_alteration dialect varies command
  obtain ⟨schema, ⟨members, -, listed⟩, same⟩ := varies.exists_base
  cases mode : schema.mode with
  | create =>
    have creates (text : String) : (family text).mode = .create := (same text).1.trans mode
    cases members with
    | nil =>
      refine .inl ⟨.validation (.emptyTable schema.name), fun text => ?_⟩
      simp [Schema.render, creates, listed, (same text).2.1]
    | cons column rest =>
      have rendered (text : String) : ((family text).render dialect).result =
          .ok (dialect.createTable (family text)).1 := by
        rw [Schema.render_of_creates _ (creates text) (by simp [listed])]
      exact .inr ⟨_, created, rendered⟩
  | alter =>
    have rendered (text : String) : ((family text).render dialect).result =
        (schema.commands.mapM (dialect.alteration (family text))).map fun owns =>
          (grouped schema.name [] owns).map AlterStatement.text := by
      have alters : (family text).mode = .alter := (same text).1.trans mode
      refine (Schema.render_commands alters dialect (family text).commands).trans ?_
      rw [(same text).2.1, (same text).2.2]
    simp only [rendered]
    exact (altered schema.commands).map fun owns vary =>
      (listed_grouped schema.name vary .nil).map fun statement own => own

end Dialect

namespace Schema

/-- Wherever a definition quotes a text, backends read the text back from the opening quote to the
closing one, and go on behind it. MySQL does exactly where every backslash of the text stands before
a wildcard of LIKE. -/
theorem quoted_text_read_back_iff (schema : Schema) (slot : Slot) (dialect : Dialect) :
    ∃ templates : Except Error (List (List Piece)),
      (∀ text, ((slot.put schema text).render dialect).result =
        templates.map (·.map (fill text))) ∧
      ∀ statements, templates = .ok statements → ∀ pieces ∈ statements, ∀ before behind,
        pieces = before ++ .literal :: behind → ∀ text,
          (dialect.readLiteral ((Text.quoted text).toList ++ (fill text behind).toList) =
              some (text.toList, (fill text behind).toList) ↔
            (dialect = .mySql → Literal.BackslashesKept text.toList)) := by
  obtain ⟨templates, filled, apart⟩ :=
    (Dialect.uniform_render dialect (slot.varies_put schema)).exists_templates
  refine ⟨templates, filled, fun statements found pieces member before behind placed text => ?_⟩
  exact dialect.readLiteral_quoted_iff text
    (apart statements found pieces member before behind placed text)

example : ((Slot.comment.put (ofSteps .create "t" [.column "id" .integer []]) "it's").render
    .postgres).result = .ok ["CREATE TABLE t (id INTEGER NOT NULL)",
      fill "it's" [.words "COMMENT ON TABLE t IS ", .literal]] := rfl

/-- To MySQL a backslash before the closing quote keeps the literal open to the end. -/
theorem backslash_keeps_literal_open :
    (ofSteps .create "t" [.column "c" (.string 9) [.default (.text "\\")]]).render .mySql =
      ⟨.ok ["CREATE TABLE t (c VARCHAR(9) NOT NULL DEFAULT " ++ Text.quoted "\\" ++
        ") ENGINE=InnoDB DEFAULT CHARSET=utf8mb4 COLLATE=utf8mb4_unicode_ci"], []⟩ ∧
    Dialect.mySql.readLiteral ((Text.quoted "\\").toList ++
      ") ENGINE=InnoDB DEFAULT CHARSET=utf8mb4 COLLATE=utf8mb4_unicode_ci".toList) = none :=
  ⟨rfl, by decide⟩

end Schema
end FluentSql
