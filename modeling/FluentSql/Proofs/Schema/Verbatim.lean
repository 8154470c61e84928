import FluentSql.Proofs.Backend.Journal
import FluentSql.Proofs.Schema.Inert
import FluentSql.Proofs.Schema.Order

/-! Definitions on their way to PostgreSQL. The placeholders of every statement are numbered on the
way; those of a definition arrive as they were rendered. -/
namespace FluentSql

theorem Database.delivers_applySchema {σ : Type} [Backend σ] {database : Database} {schema : Schema}
    {statements : List String}
    (rendered : (schema.render database.dialect).result = .ok statements) (context : Context) :
    (database.applySchema context schema : Task (Journaled σ) Unit).Delivers
      (statements.map fun sql => .statement none (database.dialect.rebind sql) []) := by
  intro world
  obtain ⟨after, reported, same⟩ := reports_skipped (schema.render database.dialect).skipped world
  have whole : database.applySchema context schema world =
      database.connection.execAll context statements after := by
    unfold applySchema
    rw [rendered]
    exact Task.bind_of_done reported _
  rw [whole, ← same]
  exact database.connection.delivers_execAll context statements after

namespace Schema

/-- Whatever text stands in the literals of a definition, numbering leaves its statements as they
are, and PostgreSQL receives them so. -/
theorem statements_reach_postgres_verbatim {schema : Schema}
    (given : schema.Given Placeholder.Bare) {statements : List String}
    (rendered : (schema.render .postgres).result = .ok statements) :
    (∀ sql ∈ statements, Dialect.postgres.rebind sql = sql) ∧
      ∀ {σ : Type} [Backend σ] (context : Context),
        ((Database.mk .postgres).applySchema context schema : Task (Journaled σ) Unit).Delivers
          (statements.map fun sql => .statement none sql []) := by
  have verbatim : ∀ sql ∈ statements, Dialect.postgres.rebind sql = sql := fun sql member =>
    (Dialect.inert_rendered (given.imp fun _ bare => bare.inert) rendered sql member).numbered_eq
  refine ⟨verbatim, fun {σ} _ context => ?_⟩
  have delivers := (Database.mk .postgres).delivers_applySchema (σ := σ) rendered context
  rwa [List.map_congr_left fun sql member => congrArg (BackendCall.statement none · [])
    (verbatim sql member)] at delivers

/-- A table with quotation marks and question marks in all its literals. -/
def quizTable : Schema :=
  ofSteps .create "quiz"
    [.column "answer" (.string 20) [.default (.text "it's \"a?\"")],
      .column "kind" (.enumeration ["who's", "\"why?"]) [], .comment "What's \"this?"]

theorem statements_reach_postgres_verbatim_quizTable :
    quizTable.Given Placeholder.Bare ∧
      (quizTable.render .postgres).result =
        .ok ["CREATE TABLE quiz (answer VARCHAR(20) NOT NULL DEFAULT 'it''s \"a?\"', " ++
            "kind VARCHAR(255) NOT NULL CHECK (kind IN ('who''s', '\"why?')))",
          "COMMENT ON TABLE quiz IS 'What''s \"this?'"] ∧
      Dialect.postgres.rebind "COMMENT ON TABLE quiz IS 'What''s \"this?'" =
        "COMMENT ON TABLE quiz IS 'What''s \"this?'" := by
  have given : quizTable.Given Placeholder.Bare :=
    ⟨by decide, by decide, by decide, by decide, by decide, by decide, by decide⟩
  refine ⟨given, rfl, ?_⟩
  exact (statements_reach_postgres_verbatim given rfl).1 _
    (List.mem_cons_of_mem _ List.mem_cons_self)

end Schema
end FluentSql
