import FluentSql.Proofs.Schema.Alterations
import FluentSql.Schema.Step

/-! Renames among alterations. Statements are replayed against the name that the table has at the
moment. A rename that stands apart moves the table, and the definition goes on with the name that
it had before. -/
namespace FluentSql

def AlterClause.after (current : String) : AlterClause → String
  | .renameTable target => target
  | .change _ => current

namespace AlterStatement

/-- The name of a table behind a statement. Only a statement on the table renames it. -/
def after (current : String) : AlterStatement → String
  | .alterTable named clauses =>
    if named = current then clauses.foldl AlterClause.after current else current
  | _ => current

/-- Replayed in order, every statement that names a table names it as it is called then. -/
def Tracks (current : String) : List AlterStatement → Prop
  | [] => True
  | statement :: rest =>
    (∀ named ∈ statement.table?, named = current) ∧ Tracks (statement.after current) rest

theorem foldl_after_changes (current : String) (texts : List String) :
    (texts.map AlterClause.change).foldl AlterClause.after current = current := by
  induction texts with
  | nil => rfl
  | cons text rest ih => exact ih

/-- Clauses that are no renames leave the table its name. -/
theorem tracks_changes_cons (name current : String) (texts : List String)
    (rest : List AlterStatement) :
    Tracks current (.alterTable name (texts.map .change) :: rest) ↔
      name = current ∧ Tracks current rest := by
  have kept : (alterTable name (texts.map .change)).after current = current := by
    rw [after, foldl_after_changes, ite_self]
  simp [Tracks, table?, kept]

theorem tracks_renameTable_cons (name current target : String) (rest : List AlterStatement) :
    Tracks current (.alterTable name [.renameTable target] :: rest) ↔
      name = current ∧ Tracks target rest := by
  by_cases same : name = current
  · simp [Tracks, table?, after, AlterClause.after, same]
  · simp [Tracks, table?, same]

end AlterStatement

namespace AlterCommand

/-- The commands whose statements name the table. -/
def Addresses : AlterCommand → Prop
  | .dropIndex _ => False
  | command => ¬ command.LeftOut

/-- The name of a table behind a command. -/
def after (current : String) : AlterCommand → String
  | .renameTable target => target
  | _ => current

/-- Every command that addresses the table finds it under the name of the definition. -/
def Follow (name current : String) : List AlterCommand → Prop
  | [] => True
  | command :: rest =>
    (command.Addresses → name = current) ∧ Follow name (command.after current) rest

theorem Inner.addresses {command : AlterCommand} (inner : command.Inner) : command.Addresses := by
  cases command with
  | dropIndex name => exact absurd inner id
  | _ => exact inner.not_leftOut

theorem Inner.ne_renameTable {command : AlterCommand} (inner : command.Inner) (target : String) :
    command ≠ .renameTable target := by
  rintro rfl
  exact inner

theorem ne_renameTable_of_leftOut {command : AlterCommand} (leftOut : command.LeftOut)
    (target : String) : command ≠ .renameTable target := by
  rintro rfl
  exact leftOut

theorem after_eq {command : AlterCommand} (stays : ∀ target, command ≠ .renameTable target)
    (current : String) : command.after current = current := by
  cases command with
  | renameTable target => exact absurd rfl (stays target)
  | _ => rfl

theorem not_addresses_of_leftOut {command : AlterCommand} (leftOut : command.LeftOut) :
    ¬ command.Addresses := by
  cases command with
  | addIndex index => exact not_not_intro leftOut
  | changeEngine engine => exact not_not_intro leftOut
  | changeCharset charset collation? => exact not_not_intro leftOut
  | _ => exact absurd leftOut id

/-- The table keeps the name of the definition, or it is not addressed again. -/
def Settled (name : String) (commands : List AlterCommand) : Prop :=
  ∀ before target behind, commands = before ++ .renameTable target :: behind →
    target = name ∨ ∀ command ∈ behind, ¬ command.Addresses

theorem settled_nil (name : String) : Settled name [] := by simp [Settled]

theorem settled_cons_iff {name : String} {command : AlterCommand} {rest : List AlterCommand} :
    Settled name (command :: rest) ↔
      (∀ target, command = .renameTable target →
        target = name ∨ ∀ other ∈ rest, ¬ other.Addresses) ∧ Settled name rest := by
  constructor
  · intro settled
    refine ⟨?_, ?_⟩
    · rintro target rfl
      exact settled [] target rest rfl
    · rintro before target behind rfl
      exact settled (command :: before) target behind rfl
  · rintro ⟨here, later⟩ before target behind split
    rcases List.cons_eq_append_iff.mp split with ⟨rfl, same⟩ | ⟨more, rfl, same⟩
    · obtain ⟨rfl, rfl⟩ := List.cons.inj same
      exact here target rfl
    · exact later more target behind same

/-- From a name on, every command that addresses the table finds it where the name is that of the
definition or nothing addresses the table, and it is settled behind every rename. -/
theorem follow_iff (name current : String) (commands : List AlterCommand) :
    Follow name current commands ↔
      (name = current ∨ ∀ command ∈ commands, ¬ command.Addresses) ∧ Settled name commands := by
  induction commands generalizing current with
  | nil => simp [Follow, settled_nil]
  | cons command rest ih =>
    rw [Follow, ih, settled_cons_iff]
    cases command with
    | renameTable target =>
      have addresses : (renameTable target).Addresses := id
      simp [addresses, AlterCommand.after, eq_comm]
    | _ =>
      simp only [AlterCommand.after, List.forall_mem_cons, reduceCtorEq, false_implies,
        implies_true, true_and]
      rw [imp_iff_or_not, or_and_left, and_assoc]

end AlterCommand

namespace Dialect

open AlterStatement AlterCommand

variable {schema : Schema} {commands : List AlterCommand} {owns : List Alteration}

theorem tracks_flush_append (name current : String) (texts : List String)
    (rest : List AlterStatement) :
    Tracks current (flush name (texts.map .change) ++ rest) ↔
      (texts ≠ [] → name = current) ∧ Tracks current rest := by
  cases texts with
  | nil => simp
  | cons text more => simpa [flush] using tracks_changes_cons name current (text :: more) rest

theorem tracks_grouped_statements (name current : String) (texts : List String)
    (statements : List AlterStatement) (owns : List Alteration) :
    Tracks current (grouped name (texts.map .change) (.statements statements :: owns)) ↔
      (texts ≠ [] → name = current) ∧ Tracks current (statements ++ grouped name [] owns) := by
  rw [grouped, List.append_assoc, tracks_flush_append]

/-- Statements find the table under its name where the commands do. -/
theorem tracks_grouped_iff (inOrder : List.Forall₂ (Becomes schema) commands owns)
    (texts : List String) (current : String) :
    Tracks current (grouped schema.name (texts.map .change) owns) ↔
      (texts ≠ [] → schema.name = current) ∧ Follow schema.name current commands := by
  induction inOrder generalizing texts current with
  | nil => simpa [grouped, Follow, Tracks] using tracks_flush_append schema.name current texts []
  | @cons command own commands owns becomes rest ih =>
    have behind (current : String) : Tracks current (grouped schema.name [] owns) ↔
        Follow schema.name current commands := by simpa using ih [] current
    cases becomes with
    | shared inner first more =>
      rw [grouped, ← List.map_append, ih, Follow, after_eq inner.ne_renameTable]
      by_cases same : schema.name = current
      · simp [same]
      · simp [same, inner.addresses]
    | apart inner text =>
      apply (tracks_grouped_statements ..).trans
      have alone := tracks_changes_cons schema.name current [text] (grouped schema.name [] owns)
      rw [Follow, after_eq inner.ne_renameTable, ← behind]
      simpa [inner.addresses] using fun _ => alone
    | renamed target =>
      apply (tracks_grouped_statements ..).trans
      have alone := tracks_renameTable_cons schema.name current target (grouped schema.name [] owns)
      have addresses : (AlterCommand.renameTable target).Addresses := id
      rw [Follow, AlterCommand.after, ← behind]
      simpa [addresses] using fun _ => alone
    | @indexed index worded =>
      apply (tracks_grouped_statements ..).trans
      have addresses : (AlterCommand.addIndex index).Addresses := worded
      rw [Follow, after_eq (by simp), ← behind]
      simp [addresses, Tracks, table?, AlterStatement.after]
    | dropped name =>
      apply (tracks_grouped_statements ..).trans
      have unaddressed : ¬ (AlterCommand.dropIndex name).Addresses := id
      rw [Follow, after_eq (by simp), ← behind]
      simp [unaddressed, Tracks, table?, AlterStatement.after]
    | @unindexed index fullText =>
      apply (tracks_grouped_statements ..).trans
      have leftOut : (AlterCommand.addIndex index).LeftOut := fullText
      rw [Follow, after_eq (by simp), ← behind]
      simp [not_addresses_of_leftOut leftOut]
    | skipped leftOut =>
      rw [grouped, ih, Follow, after_eq (ne_renameTable_of_leftOut leftOut)]
      simp [not_addresses_of_leftOut leftOut]

theorem exists_becomes {dialect : Dialect} {name : String} {statements : List AlterStatement}
    (built : schema.Built .alter name) (apart : dialect ≠ .mySql)
    (found : dialect.alterStatements schema = .ok statements) :
    ∃ owns, statements = grouped schema.name [] owns ∧
      List.Forall₂ (Becomes schema) schema.commands owns := by
  have each : ∀ command ∈ schema.commands, ∃ own,
      dialect.alteration schema command = .ok own ∧ Becomes schema command own := by
    intro command member
    have resolves := built.resolves command member
    cases dialect with
    | mySql => exact absurd rfl apart
    | postgres => exact exists_becomes_postgres resolves
    | sqlite =>
      have able : ¬ command.Refused := by
        intro refused
        obtain ⟨feature, failed⟩ := alterations_of_refused built.resolves ⟨command, member, refused⟩
        rw [alterStatements, failed] at found
        cases found
      obtain ⟨own, becomes⟩ := exists_becomes_sqlite resolves able
      exact ⟨own, becomes.1, becomes.2.1⟩
  obtain ⟨owns, all, inOrder⟩ := exists_alterations each
  rw [alterStatements, all] at found
  exact ⟨owns, (Except.ok.inj found).symm, inOrder.imp fun command own known => known.2⟩

end Dialect

namespace Schema

open AlterStatement

/-- On MySQL the one statement names the table as it is called. Where renames stand apart, all
statements do so in those definitions exactly that keep the name or no longer address the table
behind a rename. -/
theorem alterations_track_name_iff (name : String) (steps : List Step) (dialect : Dialect)
    (statements : List AlterStatement)
    (found : dialect.alterStatements (ofSteps .alter name steps) = .ok statements) :
    ((ofSteps .alter name steps).render dialect).result =
        .ok (statements.map AlterStatement.text) ∧
      (Tracks name statements ↔
        dialect = .mySql ∨ AlterCommand.Settled name (ofSteps .alter name steps).commands) := by
  have built := built_ofSteps .alter name steps
  refine ⟨?_, ?_⟩
  · rw [built.render_eq, found]
    rfl
  · by_cases shared : dialect = .mySql
    · subst shared
      obtain ⟨clauses, rendered, _⟩ := Dialect.exists_clauses_mySql built
      obtain rfl := Except.ok.inj (rendered.symm.trans found)
      cases clauses with
      | nil => simp [Dialect.flush, Tracks]
      | cons clause rest => simp [Dialect.flush, Tracks, table?, built.name_eq]
    · obtain ⟨owns, rfl, inOrder⟩ := Dialect.exists_becomes built shared found
      have replayed := Dialect.tracks_grouped_iff inOrder [] name
      rw [AlterCommand.follow_iff] at replayed
      simpa [built.name_eq, shared] using replayed

/-- A rename at the end is tracked. -/
theorem alterations_track_name_iff_renamed_last :
    Tracks "users" [.createIndex "users" ⟨"users_name_idx", ["name"], .plain⟩,
      .dropIndex "users_old_idx", .alterTable "users" [.renameTable "people"]] := by
  refine (alterations_track_name_iff "users" [.addIndex "users_name_idx" ["name"] false,
    .dropIndex "users_old_idx", .renameTable "people"] .postgres _ rfl).2.mpr (Or.inr ?_)
  simp [ofSteps, Schema.apply, Schema.command, empty, AlterCommand.settled_cons_iff,
    AlterCommand.settled_nil]

/-- Behind a rename the statements go on with the name from before. -/
theorem statements_miss_renamed_table : ∃ statements,
    Dialect.postgres.alterStatements
        (ofSteps .alter "users" [.renameTable "people", .dropColumn "age"]) = .ok statements ∧
      Dialect.sqlite.alterStatements
        (ofSteps .alter "users" [.renameTable "people", .dropColumn "age"]) = .ok statements ∧
      statements.map AlterStatement.text =
        ["ALTER TABLE users RENAME TO people", "ALTER TABLE users DROP COLUMN age"] ∧
      ¬ Tracks "users" statements := by
  refine ⟨[.alterTable "users" [.renameTable "people"],
    .alterTable "users" [.change "DROP COLUMN age"]], rfl, rfl, rfl, ?_⟩
  simp [Tracks, table?, AlterStatement.after, AlterClause.after]

end Schema
end FluentSql
