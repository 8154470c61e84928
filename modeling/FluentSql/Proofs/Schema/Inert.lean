import FluentSql.Proofs.Placeholder.Literals
import FluentSql.Proofs.Placeholder.Spread
import FluentSql.Proofs.Schema.Grouping
import FluentSql.Proofs.Schema.Wording

/-! Definitions on their way to PostgreSQL. Every statement is sent through the numbering of
placeholders; whatever text the literals in it hold, numbering leaves it as it is. -/
namespace FluentSql

/-! What a definition writes as it was given: names, and expressions for defaults. -/

def ColumnDef.givenTexts (column : ColumnDef) : List String :=
  column.name :: (match column.default? with
    | some (.raw expr) => [expr]
    | _ => [])

def Index.givenTexts (index : Index) : List String := index.name :: index.columns

def ForeignKey.givenTexts (key : ForeignKey) : List String :=
  [key.name, key.column, key.refTable, key.refColumn]

def AlterCommand.givenTexts : AlterCommand → List String
  | .dropColumn name => [name]
  | .renameColumn source target => [source, target]
  | .addIndex index => index.givenTexts
  | .dropIndex name => [name]
  | .addPrimaryKey columns => columns
  | .dropForeignKey name => [name]
  | .renameTable target => [target]
  | _ => []

/-- What holds of the names of tables, columns, indexes and constraints, and of raw defaults. -/
structure Schema.Given (holds : String → Prop) (schema : Schema) : Prop where
  name : holds schema.name
  columns : ∀ column ∈ schema.columns, ∀ text ∈ column.givenTexts, holds text
  primaryKey : ∀ text ∈ schema.primaryKey, holds text
  uniqueKeys : ∀ key ∈ schema.uniqueKeys, ∀ text ∈ key.1 :: key.2, holds text
  indexes : ∀ index ∈ schema.indexes, ∀ text ∈ index.givenTexts, holds text
  foreignKeys : ∀ key ∈ schema.foreignKeys, ∀ text ∈ key.givenTexts, holds text
  commands : ∀ command ∈ schema.commands, ∀ text ∈ command.givenTexts, holds text

theorem Schema.Given.imp {holds more : String → Prop} {schema : Schema}
    (given : schema.Given holds) (weaker : ∀ text, holds text → more text) : schema.Given more where
  name := weaker _ given.name
  columns column member text own := weaker text (given.columns column member text own)
  primaryKey text member := weaker text (given.primaryKey text member)
  uniqueKeys key member text own := weaker text (given.uniqueKeys key member text own)
  indexes index member text own := weaker text (given.indexes index member text own)
  foreignKeys key member text own := weaker text (given.foreignKeys key member text own)
  commands command member text own := weaker text (given.commands command member text own)

namespace Dialect

open Placeholder

theorem inert_commaList {texts : List String} (each : ∀ text ∈ texts, Inert text) :
    Inert (Text.commaList texts) := inert_join inert_comma each

/-- A part that may be missing. -/
theorem inert_elim {α : Type} {value? : Option α} {text : α → String}
    (each : ∀ value, value? = some value → Inert (text value)) : Inert (value?.elim "" text) := by
  cases value? with
  | none => exact inert_empty
  | some value => exact each value rfl

theorem inert_quotedList (values : List String) :
    Inert (Text.commaList (values.map Text.quoted)) :=
  inert_commaList (List.forall_mem_map.mpr fun value _ => inert_quoted value)

theorem inert_measured {type : String} (inert : Inert type) (length : Nat) :
    Inert (measured type length) :=
  ((inert.before "(" rfl).append (inert_natText length)).before ")" rfl

theorem inert_postgresType (counts : Bool) (type : ColumnType) :
    Inert (postgresType counts type) := by
  cases type with
  | string length => exact inert_measured (by decide) length
  | char length => exact inert_measured (by decide) length
  | decimal precision scale =>
    exact ((((inert_natText precision).after ("NUMERIC" ++ "(") rfl).before ", " rfl).append
      (inert_natText scale)).before ")" rfl
  | bigInteger | integer => cases counts <;> decide
  | _ =>
    simp only [postgresType]
    decide

theorem postgres_columnDefinition (column : ColumnDef) :
    Dialect.postgres.columnDefinition column =
      column.name ++ " " ++ postgresType column.autoIncrement column.type ++
        (if column.nullable then " NULL" else " NOT NULL") ++
        column.default?.elim "" (" DEFAULT " ++ ·.sql) ++ "" ++
        (if column.primary then " PRIMARY KEY" else "") ++
        (if column.unique then " UNIQUE" else "") ++
        (enumerationCheck? column).elim "" (" " ++ ·) :=
  standardDefinition_eq .postgres column

theorem foreignKey_sql (key : ForeignKey) :
    key.sql = "CONSTRAINT " ++ key.name ++ " FOREIGN KEY (" ++ key.column ++ ") REFERENCES " ++
      key.refTable ++ " (" ++ key.refColumn ++ ")" ++
      key.onDelete?.elim "" (" ON DELETE " ++ ·.text) ++
      key.onUpdate?.elim "" (" ON UPDATE " ++ ·.text) := by
  unfold ForeignKey.sql
  cases key.onDelete? <;> cases key.onUpdate? <;> rfl

section Columns

variable {column : ColumnDef} (given : ∀ text ∈ column.givenTexts, Inert text)
include given

theorem inert_columnName : Inert column.name := given _ List.mem_cons_self

theorem inert_default {default : ColumnDefault} (found : column.default? = some default) :
    Inert default.sql := by
  cases default with
  | value value => exact inert_literal value
  | raw expr => exact given expr (by simp [ColumnDef.givenTexts, found])

theorem inert_enumerationCheck {check : String} (found : enumerationCheck? column = some check) :
    Inert check := by
  unfold enumerationCheck? at found
  split at found
  · rename_i values _
    obtain rfl := Option.some.inj found
    exact ((((inert_columnName given).after "CHECK (" rfl).before " IN (" rfl).append
      (inert_quotedList values)).before "))" rfl
  · cases found

theorem inert_columnDefinition : Inert (Dialect.postgres.columnDefinition column) := by
  have head := ((inert_columnName given).before " " rfl).append
    (inert_postgresType column.autoIncrement column.type)
  have nulls : Inert (if column.nullable then " NULL" else " NOT NULL") := by split <;> decide
  have defaulting : Inert (column.default?.elim "" (" DEFAULT " ++ ·.sql)) :=
    inert_elim fun value found => (inert_default given found).after " DEFAULT " rfl
  have primary : Inert (if column.primary then " PRIMARY KEY" else "") := by split <;> decide
  have unique : Inert (if column.unique then " UNIQUE" else "") := by split <;> decide
  have suffix : Inert ((enumerationCheck? column).elim "" (" " ++ ·)) :=
    inert_elim fun suffix found => (inert_enumerationCheck given found).after " " rfl
  rw [postgres_columnDefinition]
  exact (((((head.append nulls).append defaulting).before "" rfl).append primary).append
    unique).append suffix

theorem inert_modifyClauses : ∀ text ∈ modifyClauses column, Inert text := by
  have alter := (inert_columnName given).after "ALTER COLUMN " rfl
  have retyped := (alter.before " TYPE " rfl).append
    (inert_postgresType column.autoIncrement column.type)
  have nulls : Inert (if column.nullable then " DROP NOT NULL" else " SET NOT NULL") := by
    split <;> decide
  have defaulted (value : ColumnDefault) (found : column.default? = some value) :
      Inert ("ALTER COLUMN " ++ column.name ++ " SET DEFAULT " ++ value.sql) :=
    (alter.before " SET DEFAULT " rfl).append (inert_default given found)
  intro text member
  rcases List.mem_append.mp member with always | optional
  · simp only [List.mem_cons, List.not_mem_nil, or_false] at always
    rcases always with rfl | rfl
    · exact retyped
    · exact alter.append nulls
  · split at optional
    · rename_i value found
      rw [List.mem_singleton.mp optional]
      exact defaulted value found
    · cases optional

end Columns

theorem inert_foreignKey {key : ForeignKey} (given : ∀ text ∈ key.givenTexts, Inert text) :
    Inert key.sql := by
  simp only [ForeignKey.givenTexts, List.mem_cons, List.not_mem_nil, or_false, forall_eq_or_imp,
    forall_eq] at given
  obtain ⟨name, column, refTable, refColumn⟩ := given
  have action (action : ReferenceAction) : Inert action.text := by cases action <;> decide
  have own := (((name.after "CONSTRAINT " rfl).before " FOREIGN KEY (" rfl).append column).before
    ") REFERENCES " rfl
  have target := (((own.append refTable).before " (" rfl).append refColumn).before ")" rfl
  have deletes : Inert (key.onDelete?.elim "" (" ON DELETE " ++ ·.text)) :=
    inert_elim fun chosen _ => (action chosen).after " ON DELETE " rfl
  have updates : Inert (key.onUpdate?.elim "" (" ON UPDATE " ++ ·.text)) :=
    inert_elim fun chosen _ => (action chosen).after " ON UPDATE " rfl
  rw [foreignKey_sql]
  exact (target.append deletes).append updates

theorem inert_createIndex {table : String} (named : Inert table) {index : Index}
    (given : ∀ text ∈ index.givenTexts, Inert text) :
    Inert (AlterStatement.createIndex table index).text := by
  obtain ⟨name, columns⟩ := List.forall_mem_cons.mp given
  have kind : Inert (if index.kind = .unique then "UNIQUE " else "") := by split <;> decide
  have head := (((kind.after "CREATE " rfl).before "INDEX " rfl).append name).before " ON " rfl
  exact (((head.append named).before " (" rfl).append (inert_commaList columns)).before ")" rfl

/-- The texts of what one command becomes. -/
def Alteration.texts : Alteration → List String
  | .clauses shared => shared.map AlterClause.text
  | .statements apart => apart.map AlterStatement.text
  | .leftOut => []

theorem inert_alterTable {table : String} (named : Inert table) {clauses : List AlterClause}
    (each : ∀ text ∈ clauses.map AlterClause.text, Inert text) :
    Inert (AlterStatement.alterTable table clauses).text :=
  ((named.after "ALTER TABLE " rfl).before " " rfl).append (inert_commaList each)

theorem inert_change {text : String} (inert : Inert text) :
    ∀ part ∈ (Alteration.change text).texts, Inert part :=
  List.forall_mem_singleton.mpr inert

section Definitions

variable {schema : Schema} (given : schema.Given Inert)
include given

theorem inert_tableConstraints : ∀ text ∈ tableConstraints schema, Inert text := by
  intro text member
  simp only [tableConstraints, List.mem_append, List.mem_map] at member
  rcases member with (primary | ⟨key, listed, rfl⟩) | ⟨key, listed, rfl⟩
  · split at primary
    · cases primary
    · rw [List.mem_singleton.mp primary]
      exact ((inert_commaList given.primaryKey).after "PRIMARY KEY (" rfl).before ")" rfl
  · obtain ⟨name, columns⟩ := List.forall_mem_cons.mp (given.uniqueKeys key listed)
    exact (((name.after "CONSTRAINT " rfl).before " UNIQUE (" rfl).append
      (inert_commaList columns)).before ")" rfl
  · exact inert_foreignKey (given.foreignKeys key listed)

theorem inert_tableHead {body : List String} (each : ∀ text ∈ body, Inert text) :
    Inert (tableHead schema body) := by
  have temporary : Inert (if schema.temporary then "TEMPORARY " else "") := by split <;> decide
  have guarded : Inert (if schema.ifNotExists then "IF NOT EXISTS " else "") := by
    split <;> decide
  have head := (((temporary.after "CREATE " rfl).before "TABLE " rfl).append guarded).append
    given.name
  exact ((head.before " (" rfl).append (inert_commaList each)).before ")" rfl

theorem inert_commentStatements : ∀ text ∈ commentStatements schema, Inert text := by
  have commented {front : String} (inert : Inert front) (comment : String) :
      Inert (front ++ " IS " ++ Text.quoted comment) :=
    (inert.before " IS " rfl).append (inert_quoted comment)
  intro text member
  rcases List.mem_append.mp member with ofTable | ofColumn
  · split at ofTable
    · rw [List.mem_singleton.mp ofTable]
      exact commented (given.name.after "COMMENT ON TABLE " rfl) _
    · cases ofTable
  · obtain ⟨column, listed, found⟩ := List.mem_filterMap.mp ofColumn
    obtain ⟨comment, _, rfl⟩ := Option.map_eq_some_iff.mp found
    have named := inert_columnName (given.columns column listed)
    have column := ((given.name.after "COMMENT ON COLUMN " rfl).before "." rfl).append named
    exact commented column comment

theorem inert_createTable : ∀ text ∈ (Dialect.postgres.createTable schema).1, Inert text := by
  have body : ∀ text ∈ schema.columns.map Dialect.postgres.columnDefinition ++
      tableConstraints schema, Inert text := by
    refine List.forall_mem_append.mpr ⟨?_, inert_tableConstraints given⟩
    exact List.forall_mem_map.mpr fun column listed =>
      inert_columnDefinition (given.columns column listed)
  have indexes : ∀ text ∈ (schema.indexes.map (Dialect.postgres.createIndex schema.name)).filterMap
      Prod.fst, Inert text := by
    intro text member
    obtain ⟨made, listed, found⟩ := List.mem_filterMap.mp member
    obtain ⟨index, own, rfl⟩ := List.mem_map.mp listed
    have inert := inert_createIndex given.name (given.indexes index own)
    unfold createIndex at found
    split at found
    · exact Option.some.inj found ▸ inert
    · exact Option.some.inj found ▸ inert
    · cases found
  exact List.forall_mem_append.mpr
    ⟨List.forall_mem_cons.mpr ⟨inert_tableHead given body, indexes⟩, inert_commentStatements given⟩

theorem inert_apart {clause : AlterClause} (inert : Inert clause.text) :
    ∀ part ∈ (Alteration.apart schema.name clause).texts, Inert part :=
  List.forall_mem_singleton.mpr
    (inert_alterTable given.name (List.forall_mem_singleton.mpr inert))

theorem inert_alteration {command : AlterCommand} {own : Alteration}
    (texts : ∀ text ∈ command.givenTexts, Inert text)
    (found : Dialect.postgres.alteration schema command = .ok own) :
    ∀ part ∈ own.texts, Inert part := by
  cases command with
  | addColumn index =>
    obtain ⟨column, listed, same⟩ := exists_of_columnAt_bind found
    obtain rfl := Except.ok.inj same
    have inert := inert_columnDefinition (given.columns column listed)
    exact inert_change (inert.after "ADD COLUMN " rfl)
  | modifyColumn index =>
    obtain ⟨column, listed, same⟩ := exists_of_columnAt_bind found
    obtain rfl := Except.ok.inj same
    exact List.forall_mem_map.mpr (List.forall_mem_map.mpr
      (inert_modifyClauses (given.columns column listed)))
  | dropColumn name =>
    obtain rfl := Except.ok.inj found
    have named : Inert name := texts _ List.mem_cons_self
    exact inert_change (named.after "DROP COLUMN " rfl)
  | renameColumn source target =>
    obtain rfl := Except.ok.inj found
    obtain ⟨old, rest⟩ := List.forall_mem_cons.mp texts
    have new : Inert target := rest _ List.mem_cons_self
    exact inert_apart given (((old.after "RENAME COLUMN " rfl).before " TO " rfl).append new)
  | addIndex index =>
    obtain rfl := Except.ok.inj found
    intro part member
    unfold indexAlteration at member
    split at member
    · cases member
    · rw [List.mem_singleton.mp member]
      exact inert_createIndex given.name texts
  | dropIndex name =>
    obtain rfl := Except.ok.inj found
    have named : Inert name := texts _ List.mem_cons_self
    exact List.forall_mem_singleton.mpr (named.after "DROP INDEX " rfl)
  | addPrimaryKey columns =>
    obtain rfl := Except.ok.inj found
    exact inert_change (((inert_commaList texts).after "ADD PRIMARY KEY (" rfl).before ")" rfl)
  | addForeignKey index =>
    obtain rfl := Except.ok.inj found
    split
    · rename_i key listed
      have inert := inert_foreignKey (given.foreignKeys key (List.mem_of_getElem? listed))
      exact inert_change (inert.after "ADD " rfl)
    · exact nofun
  | dropForeignKey name =>
    obtain rfl := Except.ok.inj found
    have named : Inert name := texts _ List.mem_cons_self
    exact inert_change (named.after "DROP CONSTRAINT " rfl)
  | renameTable target =>
    obtain rfl := Except.ok.inj found
    have named : Inert target := texts _ List.mem_cons_self
    exact inert_apart given (named.after "RENAME TO " rfl)
  | changeEngine engine =>
    obtain rfl := Except.ok.inj found
    exact nofun
  | changeCharset charset collation? =>
    obtain rfl := Except.ok.inj found
    exact nofun

theorem inert_alterations {commands : List AlterCommand} {owns : List Alteration}
    (texts : ∀ command ∈ commands, ∀ text ∈ command.givenTexts, Inert text)
    (found : commands.mapM (Dialect.postgres.alteration schema) = .ok owns) :
    ∀ own ∈ owns, ∀ part ∈ own.texts, Inert part :=
  forall_right (List.forall₂_and_left _ _ |>.mpr ⟨texts, forall₂_of_mapM found⟩)
    fun _ _ known => inert_alteration given known.1 known.2

theorem inert_flush {clauses : List AlterClause}
    (each : ∀ text ∈ clauses.map AlterClause.text, Inert text) :
    ∀ statement ∈ flush schema.name clauses, Inert statement.text := by
  unfold flush
  split
  · exact nofun
  · exact List.forall_mem_singleton.mpr (inert_alterTable given.name each)

/-- Sharing a statement puts clauses behind one another. -/
theorem inert_grouped {owns : List Alteration} (each : ∀ own ∈ owns, ∀ part ∈ own.texts, Inert part)
    {pending : List AlterClause} (before : ∀ text ∈ pending.map AlterClause.text, Inert text) :
    ∀ statement ∈ grouped schema.name pending owns, Inert statement.text := by
  induction owns generalizing pending with
  | nil => exact inert_flush given before
  | cons own rest ih =>
    obtain ⟨here, behind⟩ := List.forall_mem_cons.mp each
    cases own with
    | clauses clauses =>
      refine ih behind ?_
      rw [List.map_append]
      exact List.forall_mem_append.mpr ⟨before, here⟩
    | statements statements =>
      have apart : ∀ statement ∈ statements, Inert statement.text := List.forall_mem_map.mp here
      exact List.forall_mem_append.mpr
        ⟨List.forall_mem_append.mpr ⟨inert_flush given before, apart⟩, ih behind nofun⟩
    | leftOut => exact ih behind before

theorem inert_rendered {statements : List String}
    (rendered : (schema.render .postgres).result = .ok statements) :
    ∀ text ∈ statements, Inert text := by
  cases mode : schema.mode with
  | create =>
    have present := Schema.present_of_rendered mode rendered
    rw [Schema.render_of_creates schema mode present] at rendered
    exact Except.ok.inj rendered ▸ inert_createTable given
  | alter =>
    obtain ⟨owns, expressed⟩ := Schema.expressed_of_rendered mode rendered
    have altered := Schema.render_commands mode .postgres schema.commands
    rw [rendered, expressed] at altered
    rw [Except.ok.inj altered]
    exact List.forall_mem_map.mpr
      (inert_grouped given (inert_alterations given given.commands expressed) nofun)

end Definitions

end Dialect

end FluentSql
