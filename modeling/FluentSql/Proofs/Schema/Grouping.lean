import FluentSql.Dialect.Tables
import FluentSql.Proofs.Schema.Commands
import Mathlib.Data.List.Forall2

/-! How the clauses of alterations share statements. Taken apart again, the statements of a whole
definition are those of its commands one by one, or the failure of one of them. -/
namespace FluentSql

namespace AlterStatement

/-- A statement taken apart: an ALTER TABLE clause by clause, any other as it is. -/
def parts : AlterStatement → List AlterStatement
  | .alterTable table clauses => clauses.map fun clause => .alterTable table [clause]
  | .createIndex table index => [.createIndex table index]
  | .dropIndex name => [.dropIndex name]

/-- An ALTER TABLE has a clause. -/
def Filled : AlterStatement → Prop
  | .alterTable _ clauses => clauses ≠ []
  | _ => True

/-- The table that a statement names. -/
def table? : AlterStatement → Option String
  | .alterTable table _ => some table
  | .createIndex table _ => some table
  | .dropIndex _ => none

/-- A statement on a table: it names no other, and an ALTER TABLE has a clause. -/
structure On (table : String) (statement : AlterStatement) : Prop where
  filled : statement.Filled
  named : ∀ other ∈ statement.table?, other = table

end AlterStatement

/-- Whether a command has no words on backends other than MySQL. -/
def AlterCommand.LeftOut : AlterCommand → Prop
  | .addIndex index => index.kind = .fullText
  | .changeEngine _ => True
  | .changeCharset _ _ => True
  | _ => False

namespace Schema

/-- The definition with one command alone. -/
def only (schema : Schema) (command : AlterCommand) : Schema :=
  { schema with commands := [command] }

/-- What the statements of one command are when the definition has no other. -/
def alone (schema : Schema) (dialect : Dialect) (command : AlterCommand) :
    Except Error (List AlterStatement) :=
  dialect.alterStatements (schema.only command)

end Schema

namespace Dialect

open AlterStatement

section Groups

variable {table : String} {pending more : List AlterClause} {clauses : List AlterClause}

@[simp] theorem flush_nil (table : String) : flush table [] = [] := rfl

theorem parts_flush (table : String) (clauses : List AlterClause) :
    (flush table clauses).flatMap parts = clauses.map fun clause => .alterTable table [clause] := by
  cases clauses with
  | nil => rfl
  | cons clause rest => simp [flush, parts]

/-- Grouping loses nothing, repeats nothing and keeps the order. -/
theorem parts_grouped (table : String) (pending : List AlterClause) (owns : List Alteration) :
    (grouped table pending owns).flatMap parts =
      (flush table pending).flatMap parts ++
        (owns.map fun own => grouped table [] [own]).flatten.flatMap parts := by
  induction owns generalizing pending with
  | nil => simp [grouped]
  | cons own rest ih =>
    cases own with
    | clauses clauses => simp [grouped, ih, parts_flush]
    | statements statements => simp [grouped, ih]
    | leftOut => simp [grouped, ih]

theorem on_of_mem_flush {statement : AlterStatement} (member : statement ∈ flush table clauses) :
    statement.On table := by
  cases clauses with
  | nil => cases member
  | cons clause rest =>
    rw [List.mem_singleton.mp member]
    refine ⟨List.cons_ne_nil clause rest, ?_⟩
    rintro other ⟨⟩
    rfl

/-- Statements are on the table where those that stand apart are. -/
theorem on_of_mem_grouped {owns : List Alteration}
    (apart : ∀ statements, .statements statements ∈ owns → ∀ statement ∈ statements,
      statement.On table) (pending : List AlterClause) :
    ∀ statement ∈ grouped table pending owns, statement.On table := by
  induction owns generalizing pending with
  | nil => exact fun statement member => on_of_mem_flush member
  | cons own rest ih =>
    have behind := ih fun statements member => apart statements (List.mem_cons_of_mem own member)
    cases own with
    | clauses clauses => exact behind (pending ++ clauses)
    | leftOut => exact behind pending
    | statements statements =>
      intro statement member
      simp only [grouped, List.mem_append] at member
      rcases member with (old | here) | later
      · exact on_of_mem_flush old
      · exact apart statements List.mem_cons_self statement here
      · exact behind [] statement later

/-- Clauses alone share one statement. -/
theorem grouped_map_clauses (table : String) (pending : List AlterClause)
    (lists : List (List AlterClause)) :
    grouped table pending (lists.map .clauses) = flush table (pending ++ lists.flatten) := by
  induction lists generalizing pending with
  | nil => simp [grouped]
  | cons clauses rest ih => simp [grouped, ih]

theorem grouped_clauses (table : String) (pending clauses : List AlterClause) :
    grouped table pending (clauses.map fun clause => .clauses [clause]) =
      flush table (pending ++ clauses) := by
  simpa [Function.comp_def, ← List.flatMap_def] using
    grouped_map_clauses table pending (clauses.map fun clause => [clause])

/-- Where no clauses are shared, the statements follow one another. -/
theorem grouped_apart (table : String) {owns : List Alteration}
    (unshared : ∀ clauses, .clauses clauses ∉ owns) :
    grouped table [] owns = (owns.map fun own => grouped table [] [own]).flatten := by
  induction owns with
  | nil => rfl
  | cons own rest ih =>
    have behind := ih fun clauses member => unshared clauses (List.mem_cons_of_mem own member)
    cases own with
    | clauses clauses => exact absurd List.mem_cons_self (unshared clauses)
    | statements statements => simp [grouped, behind]
    | leftOut => simp [grouped, behind]

end Groups

section Commands

variable {dialect : Dialect} {schema : Schema}

theorem forall_right {related : AlterCommand → Alteration → Prop} {holds : Alteration → Prop}
    {commands : List AlterCommand} {owns : List Alteration}
    (inOrder : List.Forall₂ related commands owns)
    (each : ∀ command own, related command own → holds own) : ∀ own ∈ owns, holds own := by
  induction inOrder with
  | nil => exact nofun
  | cons first rest ih => exact List.forall_mem_cons.mpr ⟨each _ _ first, ih⟩

/-- A command that needs a column is expressed where the definition has it. -/
theorem exists_of_columnAt_bind {index : Nat} {change : ColumnDef → Except Error Alteration}
    {own : Alteration} (found : columnAt schema index >>= change = .ok own) :
    ∃ column ∈ schema.columns, change column = .ok own := by
  unfold columnAt at found
  split at found
  · rename_i column listed
    exact ⟨column, List.mem_of_getElem? listed, found⟩
  · cases found

/-- A command is the same whatever commands are around it. -/
theorem alteration_commands (dialect : Dialect) (schema : Schema) (commands : List AlterCommand)
    (command : AlterCommand) :
    dialect.alteration { schema with commands := commands } command =
      dialect.alteration schema command := by
  cases dialect <;> cases command <;> rfl

theorem alone_eq_ok {command : AlterCommand} {own : Alteration}
    (found : dialect.alteration schema command = .ok own) :
    schema.alone dialect command = .ok (grouped schema.name [] [own]) := by
  have same := (alteration_commands dialect schema [command] command).trans found
  simp only [Schema.alone, alterStatements, Schema.only, alterations] at same ⊢
  rw [same]
  rfl

/-- Commands that can all be expressed have their alterations in the order of the calls. -/
theorem exists_alterations {holds : AlterCommand → Alteration → Prop}
    {commands : List AlterCommand}
    (each : ∀ command ∈ commands, ∃ own,
      dialect.alteration schema command = .ok own ∧ holds command own) :
    ∃ owns, (dialect.alterations schema commands).1 = .ok owns ∧
      List.Forall₂ (fun command own =>
        dialect.alteration schema command = .ok own ∧ holds command own) commands owns := by
  induction commands with
  | nil => exact ⟨[], rfl, .nil⟩
  | cons command rest ih =>
    obtain ⟨own, found, held⟩ := each command List.mem_cons_self
    obtain ⟨owns, all, inOrder⟩ := ih fun other member =>
      each other (List.mem_cons_of_mem command member)
    refine ⟨own :: owns, ?_, .cons ⟨found, held⟩ inOrder⟩
    simp only [alterations, found, all]
    rfl

/-- Commands become what each becomes, or the first that fails fails all. -/
theorem alterations_eq_mapM (dialect : Dialect) (schema : Schema) (commands : List AlterCommand) :
    (dialect.alterations schema commands).1 = commands.mapM (dialect.alteration schema) := by
  induction commands with
  | nil => rfl
  | cons command rest ih =>
    rw [List.mapM_cons, ← ih, alterations]
    cases dialect.alteration schema command with
    | error error => rfl
    | ok own =>
      change (dialect.alterations schema rest).1.map (own :: ·) = _
      cases (dialect.alterations schema rest).1 <;> rfl

theorem forall₂_of_mapM {commands : List AlterCommand} {owns : List Alteration}
    (found : commands.mapM (dialect.alteration schema) = .ok owns) :
    List.Forall₂ (fun command own => dialect.alteration schema command = .ok own)
      commands owns := by
  induction commands generalizing owns with
  | nil =>
    obtain rfl := Except.ok.inj found
    exact .nil
  | cons command rest ih =>
    rw [List.mapM_cons] at found
    cases first : dialect.alteration schema command with
    | error error =>
      rw [first] at found
      cases found
    | ok own =>
      rw [first] at found
      cases more : rest.mapM (dialect.alteration schema) with
      | error error =>
        rw [more] at found
        cases found
      | ok others =>
        rw [more] at found
        obtain rfl := Except.ok.inj found
        exact .cons first (ih more)

/-- Where commands can all be expressed, those before and behind one of them can. -/
theorem exists_of_mapM_around {before behind : List AlterCommand} {command : AlterCommand}
    {owns : List Alteration}
    (found : (before ++ command :: behind).mapM (dialect.alteration schema) = .ok owns) :
    ∃ firsts lasts, before.mapM (dialect.alteration schema) = .ok firsts ∧
      behind.mapM (dialect.alteration schema) = .ok lasts := by
  rw [List.mapM_append, List.mapM_cons] at found
  cases first : before.mapM (dialect.alteration schema) with
  | error error =>
    rw [first] at found
    cases found
  | ok firsts =>
    cases last : behind.mapM (dialect.alteration schema) with
    | error error =>
      rw [first, last] at found
      cases here : dialect.alteration schema command with
      | error other =>
        rw [here] at found
        cases found
      | ok own =>
        rw [here] at found
        cases found
    | ok lasts => exact ⟨firsts, lasts, rfl, rfl⟩

end Commands

end Dialect

open Dialect

variable {schema : Schema} {dialect : Dialect}

theorem Schema.render_of_creates (schema : Schema) (creates : schema.mode = .create)
    (present : schema.columns.isEmpty = false) (dialect : Dialect) :
    schema.render dialect =
      ⟨.ok (dialect.createTable schema).1, (dialect.createTable schema).2⟩ := by
  simp [render, creates, present]

theorem Schema.present_of_rendered (creates : schema.mode = .create) {statements : List String}
    (rendered : (schema.render dialect).result = .ok statements) :
    schema.columns.isEmpty = false := by
  cases absent : schema.columns.isEmpty with
  | false => rfl
  | true => simp [render, creates, absent] at rendered

theorem Schema.render_of_alters (schema : Schema) (alters : schema.mode = .alter)
    (dialect : Dialect) :
    schema.render dialect = dialect.alterTable schema := by
  simp [render, alters]

/-- The statements of an altered table by its commands. -/
theorem Schema.render_commands (alters : schema.mode = .alter) (dialect : Dialect)
    (commands : List AlterCommand) :
    ({ schema with commands := commands }.render dialect).result =
      (commands.mapM (dialect.alteration schema)).map fun owns =>
        (grouped schema.name [] owns).map AlterStatement.text := by
  have alone : dialect.alteration { schema with commands := commands } =
      dialect.alteration schema := funext (alteration_commands dialect schema commands)
  rw [render_of_alters { schema with commands := commands } alters, alterTable, alterStatements,
    alterations_eq_mapM, alone]
  cases commands.mapM (dialect.alteration schema) <;> rfl

/-- A definition that renders can express all its commands. -/
theorem Schema.expressed_of_rendered (alters : schema.mode = .alter) {statements : List String}
    (rendered : (schema.render dialect).result = .ok statements) :
    ∃ owns, schema.commands.mapM (dialect.alteration schema) = .ok owns := by
  have altered := render_commands alters dialect schema.commands
  rw [rendered] at altered
  cases expressed : schema.commands.mapM (dialect.alteration schema) with
  | error error =>
    rw [expressed] at altered
    cases altered
  | ok owns => exact ⟨owns, rfl⟩

end FluentSql
