import FluentSql.Database
import FluentSql.Proofs.Schema.Alterations
import FluentSql.Proofs.Schema.Fragments
import FluentSql.Proofs.Task

/-! Alterations lose no command, repeat none and keep the order of the calls. A definition that the
backend cannot express does not reach it. -/
namespace FluentSql

namespace Database

/-- Reporting what was left out does not reach the backend. -/
theorem reports_skipped {σ : Type} (skipped : List Skipped) (world : World σ) :
    ∃ after, (forIn skipped PUnit.unit fun option _ => do
        Task.report (.optionSkipped option)
        pure (ForInStep.yield PUnit.unit) : Task σ PUnit) world = (.done PUnit.unit, after) ∧
      after.backend = world.backend := by
  induction skipped generalizing world with
  | nil => exact ⟨world, rfl, rfl⟩
  | cons option rest ih =>
    obtain ⟨after, run, same⟩ :=
      ih { world with log := world.log ++ [.optionSkipped option] }
    rw [List.forIn_cons]
    exact ⟨after, run, same⟩

theorem applySchema_of_error {σ : Type} [Backend σ] {database : Database} {schema : Schema}
    {error : Error} (failed : (schema.render database.dialect).result = .error error)
    (context : Context) (world : World σ) :
    (database.applySchema context schema world).1 = .failed error ∧
      (database.applySchema context schema world).2.backend = world.backend := by
  obtain ⟨after, run, same⟩ := reports_skipped (schema.render database.dialect).skipped world
  have whole : database.applySchema context schema world = (.failed error, after) := by
    unfold applySchema
    rw [failed]
    exact Task.bind_of_done run _
  rw [whole]
  exact ⟨rfl, same⟩

end Database

namespace Schema

/-- The statements that a definition renders to. None is an ALTER TABLE without clauses, and a
reader of their texts can take apart those whose clauses are whole. -/
structure Renders (schema : Schema) (dialect : Dialect) (statements : List AlterStatement) :
    Prop where
  result_eq : (schema.render dialect).result = .ok (statements.map AlterStatement.text)
  filled : ∀ statement ∈ statements, statement.Filled
  taken_text : ∀ statement ∈ statements, statement.Whole →
    Fragments.taken schema.name statement.text = statement.parts.map AlterStatement.text

/-- Taken apart, the statements are what the commands are alone, in the order of the calls. -/
def ClauseByClause (schema : Schema) (dialect : Dialect) : Prop :=
  ∃ statements each, schema.Renders dialect statements ∧
    List.Forall₂ (fun command own =>
      schema.alone dialect command = .ok own ∧ (own = [] ↔ command.LeftOut)) schema.commands each ∧
    statements.flatMap AlterStatement.parts = each.flatten.flatMap AlterStatement.parts

/-- There is one statement with one clause for each command, or there are no commands. -/
def InOneStatement (schema : Schema) (dialect : Dialect) : Prop :=
  (schema.commands = [] ∧ schema.Renders dialect []) ∨
    schema.commands ≠ [] ∧ ∃ clauses,
      schema.Renders dialect [.alterTable schema.name clauses] ∧
      List.Forall₂ (fun command clause =>
        schema.alone dialect command = .ok [.alterTable schema.name [clause]])
        schema.commands clauses

/-- There is one statement for each command, in the order of the calls. A command that is refused
refuses all, and nothing reaches the backend. -/
structure OneByOne (schema : Schema) (dialect : Dialect) : Prop where
  unsupported_iff : (∃ feature,
      (schema.render dialect).result = .error (.unsupported dialect.name feature)) ↔
    ∃ command ∈ schema.commands, command.Refused
  untouched : (∃ command ∈ schema.commands, command.Refused) →
    ∃ feature, ∀ {σ : Type} [Backend σ] (context : Context) (world : World σ),
      ((Database.mk dialect).applySchema context schema world).1 =
          .failed (.unsupported dialect.name feature) ∧
        ((Database.mk dialect).applySchema context schema world).2.backend = world.backend
  statements : (∀ command ∈ schema.commands, ¬ command.Refused) →
    ∃ each, schema.Renders dialect each.flatten ∧
      List.Forall₂ (fun command own =>
        schema.alone dialect command = .ok own ∧ command.Single own) schema.commands each

section Rendering

open Dialect

variable {schema : Schema} {dialect : Dialect} {name : String}

theorem renders_of_ok (built : schema.Built .alter name) {statements : List AlterStatement}
    (found : dialect.alterStatements schema = .ok statements)
    (on : ∀ statement ∈ statements, statement.On schema.name) :
    schema.Renders dialect statements := by
  refine ⟨?_, fun statement member => (on statement member).filled, ?_⟩
  · rw [built.render_eq, found]
    rfl
  · exact fun statement member => AlterStatement.taken_text (on statement member)

/-- Commands of which each becomes what it should render to the statements that they share. -/
theorem exists_renders (built : schema.Built .alter name)
    {holds : AlterCommand → Alteration → Prop}
    (becomes : ∀ {command own}, holds command own → Becomes schema command own)
    (each : ∀ command ∈ schema.commands, ∃ own,
      dialect.alteration schema command = .ok own ∧ holds command own) :
    ∃ owns, schema.Renders dialect (grouped schema.name [] owns) ∧
      List.Forall₂ (fun command own =>
        schema.alone dialect command = .ok (grouped schema.name [] [own]) ∧
          holds command own) schema.commands owns := by
  obtain ⟨owns, found, inOrder⟩ := exists_alterations each
  have known : ∀ own ∈ owns, ∃ command, Becomes schema command own :=
    forall_right inOrder fun command own holds => ⟨command, becomes holds.2⟩
  refine ⟨owns, renders_of_ok built ?_ ?_, ?_⟩
  · rw [alterStatements, found]
    rfl
  · apply on_of_mem_grouped
    intro statements member
    obtain ⟨command, becomes⟩ := known _ member
    exact becomes.on
  · exact inOrder.imp fun command own holds => ⟨alone_eq_ok holds.1, holds.2⟩

theorem clauseByClause_postgres (built : schema.Built .alter name) :
    schema.ClauseByClause .postgres := by
  obtain ⟨owns, renders, inOrder⟩ := exists_renders built (fun becomes => becomes)
    fun command member => exists_becomes_postgres (built.resolves command member)
  refine ⟨_, owns.map fun own => grouped schema.name [] [own], renders, ?_, ?_⟩
  · rw [List.forall₂_map_right_iff]
    exact inOrder.imp fun command own known => ⟨known.1, known.2.grouped_eq_nil_iff⟩
  · rw [parts_grouped, flush_nil, List.flatMap_nil, List.nil_append]

theorem inOneStatement_mySql (built : schema.Built .alter name) :
    schema.InOneStatement .mySql := by
  obtain ⟨clauses, shared, inOrder⟩ := exists_clauses_mySql built
  have renders := renders_of_ok built shared fun statement member => on_of_mem_flush member
  by_cases absent : schema.commands = []
  · rw [absent, List.forall₂_nil_left_iff] at inOrder
    rw [inOrder] at renders
    exact .inl ⟨absent, renders⟩
  · have present : clauses ≠ [] := by
      intro none
      rw [none, List.forall₂_nil_right_iff] at inOrder
      exact absent inOrder
    obtain ⟨clause, rest, rfl⟩ := List.exists_cons_of_ne_nil present
    exact .inr ⟨absent, _, renders, inOrder.imp fun command clause => alone_eq_ok⟩

theorem oneByOne_sqlite (built : schema.Built .alter name) : schema.OneByOne .sqlite := by
  have able (allowed : ∀ command ∈ schema.commands, ¬ command.Refused) :=
    exists_renders built (fun known => known.1) fun command member =>
      exists_becomes_sqlite (built.resolves command member) (allowed command member)
  have refuses (refused : ∃ command ∈ schema.commands, command.Refused) : ∃ feature,
      (schema.render .sqlite).result = .error (.unsupported Dialect.sqlite.name feature) := by
    obtain ⟨feature, failed⟩ := alterations_of_refused built.resolves refused
    refine ⟨feature, ?_⟩
    rw [built.render_eq, alterStatements, failed]
    rfl
  refine ⟨⟨?_, refuses⟩, ?_, ?_⟩
  · rintro ⟨feature, failed⟩
    by_contra none
    obtain ⟨owns, renders, _⟩ := able fun command member refused => none ⟨command, member, refused⟩
    rw [renders.result_eq] at failed
    cases failed
  · intro refused
    obtain ⟨feature, failed⟩ := refuses refused
    exact ⟨feature, Database.applySchema_of_error failed⟩
  · intro allowed
    obtain ⟨owns, renders, inOrder⟩ := able allowed
    have unshared : ∀ clauses, .clauses clauses ∉ owns := fun clauses member =>
      forall_right inOrder (fun command own known => known.2.2) _ member clauses rfl
    rw [grouped_apart schema.name unshared] at renders
    refine ⟨_, renders, ?_⟩
    rw [List.forall₂_map_right_iff]
    exact inOrder.imp fun command own known => ⟨known.1, known.2.1.single known.2.2⟩

end Rendering

/-- Alterations lose no command, repeat none and keep the order of the calls. -/
theorem alterations_in_call_order (name : String) (steps : List Step) :
    (ofSteps .alter name steps).ClauseByClause .postgres ∧
      (ofSteps .alter name steps).InOneStatement .mySql ∧
      (ofSteps .alter name steps).OneByOne .sqlite :=
  have built := built_ofSteps .alter name steps
  ⟨clauseByClause_postgres built, inOneStatement_mySql built, oneByOne_sqlite built⟩

example : ((ofSteps .alter "users" [.dropColumn "age", .dropColumn "height",
      .renameColumn "mail" "email", .changeEngine "MyISAM", .dropForeignKey "owner"]).render
        .postgres).result =
    .ok ["ALTER TABLE users DROP COLUMN age, DROP COLUMN height",
      "ALTER TABLE users RENAME COLUMN mail TO email",
      "ALTER TABLE users DROP CONSTRAINT owner"] := by
  rfl

end Schema
end FluentSql
