import Mathlib.Data.List.Induction
import FluentSql.Proofs.Conduct

/-! Contexts that are limited again and again. What is left of all limits is the first of the
deadlines that are over soonest, with its own budget. -/
namespace FluentSql

namespace Limit

/-- The deadline that a limit stands for at a time. -/
def deadline (now : Instant) : Limit → Deadline
  | timeout budget => ⟨now + budget.nanoseconds, budget⟩
  | deadlineAt instant => ⟨instant, ⟨instant - now⟩⟩

end Limit

namespace Deadline

/-- Among the deadlines given it is the first that is over soonest. -/
def Soonest (given : List Deadline) (deadline : Deadline) : Prop :=
  ∃ before after, given = before ++ deadline :: after ∧
    (∀ other ∈ before, deadline.instant < other.instant) ∧
    ∀ other ∈ after, deadline.instant ≤ other.instant

theorem Soonest.le {given : List Deadline} {deadline other : Deadline}
    (soonest : Soonest given deadline) (member : other ∈ given) :
    deadline.instant ≤ other.instant := by
  obtain ⟨before, after, rfl, later, others⟩ := soonest
  rcases List.mem_append.mp member with early | late
  · exact Nat.le_of_lt (later other early)
  · rcases List.mem_cons.mp late with rfl | late
    · exact Nat.le_refl _
    · exact others other late

theorem soonest_singleton (deadline : Deadline) : Soonest [deadline] deadline :=
  ⟨[], [], rfl, nofun, nofun⟩

/-- A further deadline that is not over sooner changes nothing. -/
theorem Soonest.append {given : List Deadline} {deadline last : Deadline}
    (soonest : Soonest given deadline) (late : deadline.instant ≤ last.instant) :
    Soonest (given ++ [last]) deadline := by
  obtain ⟨before, after, rfl, later, others⟩ := soonest
  refine ⟨before, after ++ [last], by simp, later, ?_⟩
  intro other member
  rcases List.mem_append.mp member with early | same
  · exact others other early
  · rw [List.mem_singleton.mp same]
    exact late

/-- A further deadline that is over sooner takes its place. -/
theorem Soonest.replaced {given : List Deadline} {deadline last : Deadline}
    (soonest : Soonest given deadline) (sooner : last.instant < deadline.instant) :
    Soonest (given ++ [last]) last :=
  ⟨given, [], rfl, fun _ member => Nat.lt_of_lt_of_le sooner (soonest.le member), nofun⟩

end Deadline

namespace Context

theorem limit_eq_tighten (context : Context) (now : Instant) (limit : Limit) :
    context.limit now limit = context.tighten (limit.deadline now) := by
  cases limit <;> rfl

@[simp]
theorem limited_nil (context : Context) : context.limited [] = context := rfl

theorem limited_cons (context : Context) (step : Instant × Limit) (rest : List (Instant × Limit)) :
    context.limited (step :: rest) = (context.limit step.1 step.2).limited rest := rfl

theorem limited_append (context : Context) (early late : List (Instant × Limit)) :
    context.limited (early ++ late) = (context.limited early).limited late := List.foldl_append

/-- The deadlines that a context has been given: its own, then those of the limits. -/
def given (context : Context) (limits : List (Instant × Limit)) : List Deadline :=
  context.deadline?.toList ++ limits.map fun step => step.2.deadline step.1

@[simp]
theorem given_nil (context : Context) : context.given [] = context.deadline?.toList :=
  List.append_nil _

theorem given_append_singleton (context : Context) (limits : List (Instant × Limit))
    (step : Instant × Limit) :
    context.given (limits ++ [step]) = context.given limits ++ [step.2.deadline step.1] := by
  simp [given]

theorem tighten_signal? (context : Context) (deadline : Deadline) :
    (context.tighten deadline).signal? = context.signal? := by
  unfold tighten
  split
  · split <;> rfl
  · rfl

/-- One more deadline is taken in: the first of the soonest stays. -/
theorem soonest_tighten {context : Context} {given : List Deadline}
    (kept : context.deadline?.elim (given = []) (Deadline.Soonest given)) (last : Deadline) :
    ∃ soonest, (context.tighten last).deadline? = some soonest ∧
      Deadline.Soonest (given ++ [last]) soonest := by
  unfold tighten
  cases held : context.deadline? with
  | none =>
    rw [held, Option.elim_none] at kept
    subst kept
    exact ⟨last, rfl, Deadline.soonest_singleton last⟩
  | some current =>
    rw [held, Option.elim_some] at kept
    by_cases late : current.instant ≤ last.instant
    · simp only [if_pos late]
      exact ⟨current, held, kept.append late⟩
    · simp only [if_neg late]
      exact ⟨last, rfl, kept.replaced (Nat.lt_of_not_le late)⟩

theorem limit_signal? (context : Context) (now : Instant) (limit : Limit) :
    (context.limit now limit).signal? = context.signal? := by
  rw [limit_eq_tighten, tighten_signal?]

theorem limited_signal? (context : Context) (limits : List (Instant × Limit)) :
    (context.limited limits).signal? = context.signal? := by
  induction limits generalizing context with
  | nil => rfl
  | cons step rest ih =>
    rw [limited_cons, ih, limit_signal?]

/-- The deadline of a limited context is the first of the soonest that it has been given. -/
theorem soonest_limited (context : Context) (limits : List (Instant × Limit)) :
    (context.limited limits).deadline?.elim (context.given limits = [])
      (Deadline.Soonest (context.given limits)) := by
  induction limits using List.reverseRecOn with
  | nil =>
    rw [limited_nil, given_nil]
    cases context.deadline? with
    | none => rfl
    | some own => exact Deadline.soonest_singleton own
  | append_singleton early step ih =>
    obtain ⟨soonest, held, first⟩ := soonest_tighten ih (step.2.deadline step.1)
    rw [given_append_singleton, limited_append, limited_cons, limited_nil, limit_eq_tighten, held]
    exact first

/-- Limits never let a deadline be over later. -/
theorem limited_instant_le {context : Context} {own : Deadline}
    (held : context.deadline? = some own) (limits : List (Instant × Limit)) :
    ∃ kept, (context.limited limits).deadline? = some kept ∧ kept.instant ≤ own.instant := by
  have member : own ∈ context.given limits := by simp [given, held]
  have soonest := soonest_limited context limits
  cases left : (context.limited limits).deadline? with
  | none =>
    rw [left, Option.elim_none] at soonest
    rw [soonest] at member
    cases member
  | some kept =>
    rw [left, Option.elim_some] at soonest
    exact ⟨kept, rfl, soonest.le member⟩

/-- A timeout is reported with the budget of the deadline. -/
theorem Ends.budget {context : Context} {budget : Duration}
    (ends : context.Ends (.timeout budget)) :
    ∃ deadline, context.deadline? = some deadline ∧ budget = deadline.budget := by
  rcases ends with ⟨_, cancelled⟩ | ⟨deadline, held, timeout⟩
  · cases cancelled
  · exact ⟨deadline, held, Error.timeout.inj timeout⟩

/-- Limiting a context, however often and at whatever times, leaves its signal as it is and keeps of
all deadlines the first that is over soonest. Once it is over the context fails with its budget, and
no timeout is reported with another, be it before a call or while one is running. -/
theorem limits_only_tighten (context : Context) (limits : List (Instant × Limit)) :
    let limited := context.limited limits
    let given := context.given limits
    limited.signal? = context.signal? ∧
      limited.deadline?.elim (given = []) (Deadline.Soonest given) ∧
      (∀ early late, limits = early ++ late → ∀ between,
        (context.limited early).deadline? = some between →
          ∃ kept, limited.deadline? = some kept ∧ kept.instant ≤ between.instant) ∧
      ∀ clock,
        (∀ kept, limited.deadline? = some kept → limited.isCancelled clock = false →
          (limited.fault? clock = some (.timeout kept.budget) ↔ kept.instant ≤ clock.now)) ∧
        ∀ budget, (limited.fault? clock = some (.timeout budget) ∨
            ∃ instant, limited.firing? clock = some (instant, .timeout budget)) →
          ∃ soonest, limited.deadline? = some soonest ∧ Deadline.Soonest given soonest ∧
            budget = soonest.budget := by
  intro limited given
  have soonest : limited.deadline?.elim (given = []) (Deadline.Soonest given) :=
    soonest_limited context limits
  refine ⟨limited_signal? context limits, soonest, ?tighter, fun clock => ⟨?isOver, ?budget⟩⟩
  case tighter =>
    intro early late split between held
    obtain ⟨kept, last, le⟩ := limited_instant_le held late
    rw [← limited_append, ← split] at last
    exact ⟨kept, last, le⟩
  case isOver =>
    intro kept held running
    simp [fault?, running, held]
  case budget =>
    intro budget reported
    have ends : limited.Ends (.timeout budget) := by
      rcases reported with fault | ⟨instant, firing⟩
      · exact ends_of_fault fault
      · exact ends_of_firing firing
    obtain ⟨deadline, held, same⟩ := ends.budget
    rw [held, Option.elim_some] at soonest
    exact ⟨deadline, held, soonest, same⟩

/-- Of two limits that are over together the first keeps its budget. -/
example : (Context.background.limited
    [(0, .timeout ⟨9⟩), (2, .deadlineAt 5), (3, .timeout ⟨2⟩), (4, .deadlineAt 7)]).deadline? =
      some ⟨5, ⟨3⟩⟩ := by decide

end Context
end FluentSql
