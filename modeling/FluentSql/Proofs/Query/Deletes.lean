import FluentSql.Predicate.Basic
import FluentSql.Proofs.Backend.Sending
import FluentSql.Proofs.Predicate.Leaves
import FluentSql.Proofs.Query.Terminals
import Mathlib.Tactic.TFAE

/-! Deletes and their guard. The guard asks the tree of conditions whether it shows text, and the
statement is written from what it shows. The two agree at every depth, so that a delete is sent with
a condition or not at all. -/
namespace FluentSql

namespace Predicate

mutual

/-- A condition shows text where a clause in it has some, however deep. -/
theorem shows_iff_leaves (condition : Predicate) :
    condition.shows = true ↔ ∃ leaf ∈ condition.leaves, leaf.sql ≠ "" := by
  match condition with
  | .clause _ text args => simp [shows, leaves]
  | .group _ members => simpa only [shows, leaves] using anyShows_iff_leaves members

theorem anyShows_iff_leaves (conditions : List Predicate) :
    anyShows conditions = true ↔ ∃ leaf ∈ leavesOf conditions, leaf.sql ≠ "" := by
  match conditions with
  | [] => simp [anyShows, leavesOf]
  | condition :: rest =>
    rw [anyShows, Bool.or_eq_true, shows_iff_leaves condition, anyShows_iff_leaves rest, leavesOf]
    constructor
    · rintro (⟨leaf, member, shown⟩ | ⟨leaf, member, shown⟩)
      · exact ⟨leaf, List.mem_append_left _ member, shown⟩
      · exact ⟨leaf, List.mem_append_right _ member, shown⟩
    · rintro ⟨leaf, member, shown⟩
      rcases List.mem_append.mp member with own | later
      · exact Or.inl ⟨leaf, own, shown⟩
      · exact Or.inr ⟨leaf, later, shown⟩

end

end Predicate

/-- The guard, the written text and the clauses of a tree all tell whether it is blank. -/
theorem Conditions.blank_tfae (conditions : Conditions) :
    [conditions.isBlank = true, conditions.text = "",
      ∀ leaf ∈ conditions.leaves, leaf.sql = ""].TFAE := by
  tfae_have 1 ↔ 2 := conditions.isBlank_iff
  tfae_have 1 ↔ 3 := by
    have shown := Predicate.anyShows_iff_leaves conditions
    rw [isBlank, Bool.not_eq_true', ← Bool.not_eq_true, shown]
    simp only [not_exists, not_and, ne_eq, Classical.not_not]
    exact Iff.rfl
  tfae_finish

namespace Query

variable {σ : Type} {query : Query}

/-- What becomes of a delete. -/
structure Deletes (query : Query) (context : Context) (world : World (Journaled σ))
    (result : Ending UInt64 × World (Journaled σ)) : Prop where
  /-- Conditions that show text are the condition of one statement. -/
  sent : query.conditions.text ≠ "" →
    query.connection.Sent context
      ("DELETE FROM " ++ query.table ++ " WHERE " ++ query.conditions.text)
      query.conditions.args world result
  /-- Without text nothing is asked of the backend, and nothing else happens either. -/
  refused : query.conditions.text = "" →
    result = (.failed (.validation .unguardedDelete), world)

theorem deleteStatement_of_shown (table : query.table ≠ "") (sound : query.fault? = none)
    (shown : query.conditions.text ≠ "") :
    query.deleteStatement =
      .ok ⟨"DELETE FROM " ++ query.table ++ " WHERE " ++ query.conditions.text,
        query.conditions.args⟩ := by
  have guarded : query.conditions.isBlank = false := by
    rw [← Bool.not_eq_true, query.conditions.isBlank_iff]
    exact shown
  have clause : query.whereClause = " WHERE " ++ query.conditions.text := if_neg shown
  rw [deleteStatement, requireTarget_of_sound table sound, guarded, clause, String.append_assoc,
    String.append_assoc, String.append_assoc]
  rfl

theorem deleteStatement_of_blank (table : query.table ≠ "") (sound : query.fault? = none)
    (blank : query.conditions.text = "") :
    query.deleteStatement = .error (.validation .unguardedDelete) := by
  have unguarded : query.conditions.isBlank = true := query.conditions.isBlank_iff.mpr blank
  rw [deleteStatement, requireTarget_of_sound table sound, unguarded]
  rfl

/-- A tree of conditions is blank for the guard exactly where its text is empty, whatever calls have
built it. A delete therefore sends one statement with a condition in it where the tree shows text,
and is refused before it reaches the backend where it does not. -/
theorem deletes_are_guarded :
    (∀ steps : List Conditions.Step,
      [(Conditions.ofSteps steps).isBlank = true, (Conditions.ofSteps steps).text = "",
        ∀ leaf ∈ (Conditions.ofSteps steps).leaves, leaf.sql = ""].TFAE) ∧
    ∀ query : Query, query.table ≠ "" → query.fault? = none →
      ∀ (σ : Type) [Backend σ] (context : Context) (world : World (Journaled σ)),
        query.Deletes context world (query.delete context world) := by
  refine ⟨fun steps => (Conditions.ofSteps steps).blank_tfae, ?_⟩
  intro query table sound σ _ context world
  constructor
  · intro shown
    unfold delete affected
    rw [deleteStatement_of_shown table sound shown]
    exact (query.connection.sent_exec context _ _ world).bind fun _ => Task.silent_pure _
  · intro blank
    exact refuses_affected query context (deleteStatement_of_blank table sound blank) world

/-- Groups of nothing and bare arguments guard nothing; one clause inside such a group does. -/
theorem deletes_are_guarded_nested :
    ((new ⟨.pool, .postgres⟩ "users").whereGroup .or
          (Conditions.ofSteps [.args [.int 1], .group .and [.group .or []]])).delete .background
        (World.start (⟨.empty, []⟩ : Journaled Recorder)) =
      (.failed (.validation .unguardedDelete), World.start ⟨.empty, []⟩) ∧
    (((new ⟨.pool, .postgres⟩ "users").whereGroup .or
          (Conditions.ofSteps [.args [.int 1], .group .and [.or "age > ?" [.int 9]]])).delete
        .background (World.start (⟨.empty, []⟩ : Journaled Recorder))).2.backend.calls =
      [.statement none (Dialect.postgres.rebind "DELETE FROM users WHERE ((age > ?))")
        [.int 1, .int 9]] := by
  obtain ⟨_, deletes⟩ := deletes_are_guarded
  have unguarded := deletes ((new ⟨.pool, .postgres⟩ "users").whereGroup .or
    (Conditions.ofSteps [.args [.int 1], .group .and [.group .or []]])) (by decide) rfl Recorder
    .background (World.start ⟨.empty, []⟩)
  have guarded := deletes ((new ⟨.pool, .postgres⟩ "users").whereGroup .or
    (Conditions.ofSteps [.args [.int 1], .group .and [.or "age > ?" [.int 9]]])) (by decide) rfl
    Recorder .background (World.start ⟨.empty, []⟩)
  refine ⟨unguarded.refused (by decide), ?_⟩
  exact (guarded.sent (by decide)).started (Connection.refusal?_background rfl)

end Query
end FluentSql
