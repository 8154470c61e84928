import FluentSql.Proofs.Schema.Grouping
import Mathlib.Data.Set.List

/-! What becomes of the commands of a definition that alters its table. PostgreSQL shares statements
among neighbours, MySQL puts all commands in one statement, and SQLite has a statement for each. -/
namespace FluentSql

namespace AlterCommand

/-- What SQLite cannot change about a table. -/
def Refused : AlterCommand → Prop
  | .modifyColumn _ => True
  | .addPrimaryKey _ => True
  | .addForeignKey _ => True
  | .dropForeignKey _ => True
  | _ => False

/-- What changes the columns and keys of a table under its name. -/
def Inner : AlterCommand → Prop
  | .addColumn _ => True
  | .dropColumn _ => True
  | .renameColumn _ _ => True
  | command => command.Refused

/-- One statement, or none where a backend has no words for the command. -/
def Single (command : AlterCommand) (statements : List AlterStatement) : Prop :=
  (command.LeftOut ∧ statements = []) ∨ ¬ command.LeftOut ∧ ∃ statement, statements = [statement]

theorem Inner.not_leftOut {command : AlterCommand} (inner : command.Inner) :
    ¬ command.LeftOut := by
  cases command with
  | addIndex _ | changeEngine _ | changeCharset _ _ => exact absurd inner id
  | _ => exact id

end AlterCommand

/-- A definition that alters its table renders to the texts of its statements. -/
theorem Schema.Built.render_eq {schema : Schema} {name : String} (built : schema.Built .alter name)
    (dialect : Dialect) : (schema.render dialect).result =
      (dialect.alterStatements schema).map fun statements =>
        statements.map AlterStatement.text := by
  simp only [Schema.render, built.mode_eq]
  rfl

namespace Dialect

/-- What a command becomes where renames of the table stand apart. -/
inductive Becomes (schema : Schema) : AlterCommand → Alteration → Prop where
  | shared {command : AlterCommand} (inner : command.Inner) (first : String) (rest : List String) :
      Becomes schema command (.clauses ((first :: rest).map .change))
  | apart {command : AlterCommand} (inner : command.Inner) (text : String) :
      Becomes schema command (.apart schema.name (.change text))
  | renamed (target : String) :
      Becomes schema (.renameTable target) (.apart schema.name (.renameTable target))
  | indexed {index : Index} (worded : index.kind ≠ .fullText) :
      Becomes schema (.addIndex index) (.statements [.createIndex schema.name index])
  | dropped (name : String) : Becomes schema (.dropIndex name) (.statements [.dropIndex name])
  | unindexed {index : Index} (fullText : index.kind = .fullText) :
      Becomes schema (.addIndex index) (.statements [])
  | skipped {command : AlterCommand} (leftOut : command.LeftOut) : Becomes schema command .leftOut

variable {schema : Schema} {command : AlterCommand} {own : Alteration}

theorem columnAt_eq_ok {index : Nat} (present : index < schema.columns.length) :
    columnAt schema index = .ok schema.columns[index] := by
  simp [columnAt, List.getElem?_eq_getElem present]

theorem becomes_indexAlteration (schema : Schema) (index : Index) :
    Becomes schema (.addIndex index) (indexAlteration schema index) := by
  by_cases fullText : index.kind = .fullText
  · rw [indexAlteration, if_pos fullText]
    exact .unindexed fullText
  · rw [indexAlteration, if_neg fullText]
    exact .indexed fullText

/-- Every command is one clause on MySQL. -/
theorem exists_clause_mySql (resolves : command.Resolves schema) :
    ∃ own, Dialect.mySql.alteration schema command = .ok own ∧
      ∃ clause, .clauses [clause] = own := by
  cases command with
  | addColumn index =>
    simp only [alteration, mySqlAlteration, columnAt_eq_ok resolves]
    exact ⟨_, rfl, _, rfl⟩
  | modifyColumn index =>
    simp only [alteration, mySqlAlteration, columnAt_eq_ok resolves]
    exact ⟨_, rfl, _, rfl⟩
  | addForeignKey index =>
    simp only [alteration, mySqlAlteration, List.getElem?_eq_getElem resolves]
    exact ⟨_, rfl, _, rfl⟩
  | _ => exact ⟨_, rfl, _, rfl⟩

/-- Together the commands are the clauses of one statement there. -/
theorem exists_clauses_mySql {name : String} (built : schema.Built .alter name) :
    ∃ clauses, Dialect.mySql.alterStatements schema = .ok (flush schema.name clauses) ∧
      List.Forall₂ (fun command clause =>
        Dialect.mySql.alteration schema command = .ok (.clauses [clause]))
        schema.commands clauses := by
  obtain ⟨owns, found, inOrder⟩ := exists_alterations fun command member =>
    exists_clause_mySql (built.resolves command member)
  obtain ⟨clauses, rfl⟩ : owns ∈ Set.range (List.map fun clause => .clauses [clause]) := by
    rw [Set.range_list_map]
    exact forall_right inOrder fun command own known => known.2
  rw [List.forall₂_map_right_iff] at inOrder
  refine ⟨clauses, ?_, inOrder.imp fun command clause known => known.1⟩
  rw [alterStatements, found]
  exact congrArg Except.ok (grouped_clauses schema.name [] clauses)

theorem exists_becomes_postgres (resolves : command.Resolves schema) :
    ∃ own, Dialect.postgres.alteration schema command = .ok own ∧ Becomes schema command own := by
  cases command with
  | addColumn index =>
    simp only [alteration, postgresAlteration, columnAt_eq_ok resolves]
    exact ⟨_, rfl, .shared (by trivial) _ []⟩
  | modifyColumn index =>
    simp only [alteration, postgresAlteration, columnAt_eq_ok resolves]
    exact ⟨_, rfl, .shared (by trivial) _ _⟩
  | addForeignKey index =>
    simp only [alteration, postgresAlteration, List.getElem?_eq_getElem resolves]
    exact ⟨_, rfl, .shared (by trivial) _ []⟩
  | renameColumn source target => exact ⟨_, rfl, .apart (by trivial) _⟩
  | renameTable target => exact ⟨_, rfl, .renamed target⟩
  | addIndex index => exact ⟨_, rfl, becomes_indexAlteration schema index⟩
  | dropIndex name => exact ⟨_, rfl, .dropped name⟩
  | changeEngine engine => exact ⟨_, rfl, .skipped trivial⟩
  | changeCharset charset collation? => exact ⟨_, rfl, .skipped trivial⟩
  | _ => exact ⟨_, rfl, .shared (by trivial) _ []⟩

/-- SQLite has no clauses that may share a statement. -/
theorem exists_becomes_sqlite (resolves : command.Resolves schema) (able : ¬ command.Refused) :
    ∃ own, Dialect.sqlite.alteration schema command = .ok own ∧ Becomes schema command own ∧
      ∀ clauses, own ≠ .clauses clauses := by
  cases command with
  | addColumn index =>
    simp only [alteration, sqliteAlteration, columnAt_eq_ok resolves]
    exact ⟨_, rfl, .apart (by trivial) _, nofun⟩
  | dropColumn name => exact ⟨_, rfl, .apart (by trivial) _, nofun⟩
  | renameColumn source target => exact ⟨_, rfl, .apart (by trivial) _, nofun⟩
  | renameTable target => exact ⟨_, rfl, .renamed target, nofun⟩
  | addIndex index => exact ⟨_, rfl, becomes_indexAlteration schema index, nofun⟩
  | dropIndex name => exact ⟨_, rfl, .dropped name, nofun⟩
  | changeEngine engine => exact ⟨_, rfl, .skipped trivial, nofun⟩
  | changeCharset charset collation? => exact ⟨_, rfl, .skipped trivial, nofun⟩
  | _ => exact absurd trivial able

theorem alteration_of_refused (schema : Schema) (refused : command.Refused) :
    ∃ feature, Dialect.sqlite.alteration schema command =
      .error (.unsupported Dialect.sqlite.name feature) := by
  cases command with
  | modifyColumn index => exact ⟨_, rfl⟩
  | addPrimaryKey columns => exact ⟨_, rfl⟩
  | addForeignKey index => exact ⟨_, rfl⟩
  | dropForeignKey name => exact ⟨_, rfl⟩
  | _ => exact absurd refused id

/-- One refused command refuses all. -/
theorem alterations_of_refused {commands : List AlterCommand}
    (resolves : ∀ command ∈ commands, command.Resolves schema)
    (refused : ∃ command ∈ commands, command.Refused) :
    ∃ feature, (Dialect.sqlite.alterations schema commands).1 =
      .error (.unsupported Dialect.sqlite.name feature) := by
  induction commands with
  | nil => exact absurd refused (by simp)
  | cons command rest ih =>
    by_cases here : command.Refused
    · obtain ⟨feature, found⟩ := alteration_of_refused schema here
      refine ⟨feature, ?_⟩
      simp only [alterations, found]
    · obtain ⟨own, found, _⟩ := exists_becomes_sqlite (resolves command List.mem_cons_self) here
      have later : ∃ command ∈ rest, command.Refused := by
        obtain ⟨other, member, holds⟩ := refused
        rcases List.mem_cons.mp member with rfl | behind
        · exact absurd holds here
        · exact ⟨other, behind, holds⟩
      obtain ⟨feature, failed⟩ :=
        ih (fun other member => resolves other (List.mem_cons_of_mem command member)) later
      refine ⟨feature, ?_⟩
      simp only [alterations, found, failed]
      rfl

theorem Becomes.grouped_eq_nil_iff (becomes : Becomes schema command own) :
    grouped schema.name [] [own] = [] ↔ command.LeftOut := by
  cases becomes with
  | shared inner first rest => simp [grouped, flush, inner.not_leftOut]
  | apart inner text => simp [grouped, Alteration.apart, inner.not_leftOut]
  | renamed target => simp [grouped, Alteration.apart, AlterCommand.LeftOut]
  | indexed worded => simp [grouped, AlterCommand.LeftOut, worded]
  | dropped name => simp [grouped, AlterCommand.LeftOut]
  | unindexed fullText => simp [grouped, AlterCommand.LeftOut, fullText]
  | skipped leftOut => simp [grouped, leftOut]

theorem Becomes.single (becomes : Becomes schema command own)
    (unshared : ∀ clauses, own ≠ .clauses clauses) :
    command.Single (grouped schema.name [] [own]) := by
  by_cases leftOut : command.LeftOut
  · exact .inl ⟨leftOut, becomes.grouped_eq_nil_iff.mpr leftOut⟩
  · refine .inr ⟨leftOut, ?_⟩
    cases becomes with
    | shared inner first rest => exact absurd rfl (unshared _)
    | unindexed fullText => exact absurd fullText leftOut
    | skipped leftOut' => exact absurd leftOut' leftOut
    | _ => exact ⟨_, rfl⟩

/-- A statement that stands apart is on the table of the definition. -/
theorem Becomes.on {statements : List AlterStatement}
    (becomes : Becomes schema command (.statements statements)) :
    ∀ statement ∈ statements, statement.On schema.name := by
  intro statement member
  cases becomes with
  | unindexed fullText => cases member
  | dropped name =>
    rw [List.mem_singleton.mp member]
    exact ⟨trivial, nofun⟩
  | indexed worded =>
    rw [List.mem_singleton.mp member]
    exact ⟨trivial, fun other same => (Option.some.inj same).symm⟩
  | _ =>
    rw [List.mem_singleton.mp member]
    exact ⟨List.cons_ne_nil _ _, fun other same => (Option.some.inj same).symm⟩

end Dialect

end FluentSql
