import FluentSql.Backend.Recorder
import FluentSql.Proofs.Context.Course
import FluentSql.Proofs.Context.Handles

/-! Calls raced against their contexts. Of the call on its own, the deadline and the signal,
whichever is through first decides how the call comes out. -/
namespace FluentSql

namespace Ending

theorem time_under (ending : Ending α) (after : World σ) (guards : List Context) :
    ending.time (after.under guards) = ending.time after := by
  cases ending <;> rfl

end Ending

namespace Context

/-- When the deadline is over; never without one. -/
def expiry (context : Context) : WithTop Instant :=
  context.deadline?.elim ⊤ fun deadline => WithTop.some deadline.instant

/-- Neither is the signal set nor the deadline over. -/
structure Running (context : Context) (clock : Clock) : Prop where
  uncancelled : context.isCancelled clock = false
  unexpired : WithTop.some clock.now < context.expiry

theorem Running.fault? {context : Context} {clock : Clock} (running : context.Running clock) :
    context.fault? clock = none := by
  have unexpired := running.unexpired
  unfold expiry at unexpired
  unfold Context.fault?
  rw [running.uncancelled]
  cases held : context.deadline? with
  | none => rfl
  | some deadline =>
    rw [held] at unexpired
    have later : ¬ deadline.instant ≤ clock.now := not_le.mpr (WithTop.coe_lt_coe.mp unexpired)
    exact if_neg later

/-- What ends a call is what is through first, the signal or the deadline. -/
theorem firing?_cases {context : Context} {clock : Clock} {instant : Instant} {error : Error}
    (fires : context.firing? clock = some (instant, error)) :
    (error = .cancelled ∧ context.cancellation clock = WithTop.some instant ∧
        context.cancellation clock ≤ context.expiry) ∨
      ∃ deadline, context.deadline? = some deadline ∧ error = .timeout deadline.budget ∧
        instant = deadline.instant ∧ context.expiry ≤ context.cancellation clock := by
  unfold firing? at fires
  unfold cancellation expiry
  cases cancelled : context.signal?.bind clock.firing? with
  | none =>
    cases limited : context.deadline? with
    | none => simp [cancelled, limited] at fires
    | some deadline =>
      simp only [cancelled, limited, Option.some.injEq, Prod.mk.injEq] at fires
      exact .inr ⟨deadline, rfl, fires.2.symm, fires.1.symm, le_top⟩
  | some set =>
    cases limited : context.deadline? with
    | none =>
      simp only [cancelled, limited, Option.some.injEq, Prod.mk.injEq] at fires
      exact .inl ⟨fires.2.symm, congrArg _ fires.1, le_top⟩
    | some deadline =>
      simp only [cancelled, limited] at fires
      split at fires
      · rename_i sooner
        simp only [Option.some.injEq, Prod.mk.injEq] at fires
        exact .inl ⟨fires.2.symm, congrArg _ fires.1, WithTop.coe_le_coe.mpr sooner⟩
      · rename_i later
        simp only [Option.some.injEq, Prod.mk.injEq] at fires
        exact .inr ⟨deadline, rfl, fires.2.symm, fires.1.symm,
          WithTop.coe_le_coe.mpr (Nat.le_of_not_le later)⟩

/-- A context fires when its signal does or its deadline is over, and no later. -/
theorem firingTime_le (context : Context) (clock : Clock) :
    context.firingTime clock ≤ context.expiry ∧
      context.firingTime clock ≤ context.cancellation clock := by
  cases fires : context.firing? clock with
  | none =>
    have nothing : context.signal?.bind clock.firing? = none ∧ context.deadline? = none := by
      unfold firing? at fires
      cases cancelled : context.signal?.bind clock.firing? <;>
        cases limited : context.deadline? <;> simp only [cancelled, limited] at fires
      · exact ⟨rfl, rfl⟩
      · cases fires
      · cases fires
      · split at fires <;> cases fires
    rw [cancellation, expiry, nothing.1, nothing.2]
    exact ⟨le_top, le_top⟩
  | some fired =>
    rw [firingTime, fires]
    rcases firing?_cases fires with ⟨_, time, le⟩ | ⟨deadline, held, _, time, le⟩
    · exact ⟨time.ge.trans le, time.ge⟩
    · have own : WithTop.some fired.1 = context.expiry := by
        rw [expiry, held, time]
        rfl
      exact ⟨own.le, own.le.trans le⟩

theorem Running.lt_firingTime {context : Context} {clock : Clock}
    (running : context.Running clock) : WithTop.some clock.now < context.firingTime clock := by
  cases fires : context.firing? clock with
  | none =>
    rw [firingTime, fires]
    exact WithTop.coe_lt_top _
  | some fired =>
    rw [firingTime, fires]
    rcases firing?_cases fires with ⟨_, time, _⟩ | ⟨deadline, held, _, time, _⟩
    · rw [Option.elim_some, ← time, ← not_le, ← isCancelled_iff, running.uncancelled]
      exact Bool.false_ne_true
    · have unexpired := running.unexpired
      rw [expiry, held] at unexpired
      rw [Option.elim_some, time]
      exact unexpired

end Context

theorem World.limit_cons_le (world : World σ) (context : Context) (guards : List Context) :
    (world.under (context :: guards)).limit ≤ context.firingTime world.clock := by
  rcases world.overtaking?_cons context guards with ⟨instant, error, fires, _, first⟩ | ⟨le, first⟩
  · rw [World.limit_of_overtaking first, Context.firingTime, fires]
    exact le_rfl
  · rwa [World.limit, first]

namespace Task

variable {σ α : Type}

/-- What a call does with no context around it. -/
def alone (task : Task σ α) (world : World σ) : Ending α × World σ :=
  ((task (world.under [])).1, (task (world.under [])).2.under world.guards)

/-- When a call would end with no context around it. -/
def completion (task : Task σ α) (world : World σ) : WithTop Instant :=
  (task.alone world).1.time (task.alone world).2

end Task

/-- How a call may come out under a context that it is raced against. Of what is through together,
any may decide. -/
inductive Verdict (context : Context) (task : Task σ α) (world : World σ) :
    Ending α × World σ → Prop where
  | completed (byDeadline : task.completion world ≤ context.expiry)
    (bySignal : task.completion world ≤ context.cancellation world.clock) :
    Verdict context task world (task.alone world)
  | expired {deadline : Deadline} {after : World σ} (held : context.deadline? = some deadline)
    (byCompletion : context.expiry ≤ task.completion world)
    (bySignal : context.expiry ≤ context.cancellation world.clock)
    (clock : after.clock.now = deadline.instant) :
    Verdict context task world (.failed (.timeout deadline.budget), after)
  | cancelled {after : World σ}
    (byCompletion : context.cancellation world.clock ≤ task.completion world)
    (byDeadline : context.cancellation world.clock ≤ context.expiry)
    (clock : WithTop.some after.clock.now = context.cancellation world.clock) :
    Verdict context task world (.failed .cancelled, after)
  /-- A context further out ends this call along with its own. -/
  | dropped {depth : Nat} {instant : Instant} {error : Error} {after : World σ}
    (around : world.overtaking? = some (depth, instant, error))
    (byCompletion : WithTop.some instant ≤ task.completion world)
    (byDeadline : WithTop.some instant ≤ context.expiry)
    (bySignal : WithTop.some instant ≤ context.cancellation world.clock) :
    Verdict context task world (.overtaken depth error, after)

namespace Task

variable {σ α : Type}

/-- A context that ends a call when it fires does so by what is through first. -/
theorem verdict_of_firing {task : Task σ α} {context : Context} {world after : World σ}
    {instant : Instant} {error : Error}
    (fires : context.firing? world.clock = some (instant, error))
    (notBefore : WithTop.some instant ≤ task.completion world)
    (clock : after.clock.now = instant) : Verdict context task world (.failed error, after) := by
  rcases Context.firing?_cases fires with ⟨rfl, time, le⟩ | ⟨deadline, held, rfl, time, le⟩
  · exact .cancelled (time ▸ notBefore) le (by rw [clock, time])
  · refine .expired held ?_ le (clock.trans time)
    rwa [Context.expiry, held, Option.elim_some, ← time]

theorem Timed.verdict {task : Task σ α} (timed : task.Timed) {context : Context} {world : World σ}
    (running : context.Running world.clock) :
    Verdict context task world (task.within context world) := by
  obtain ⟨course, described⟩ := timed.described world
  have alone : task.alone world = (course.ending, course.after.under world.guards) := by
    rw [Task.alone, described.ends [] course.unlimited]
    rfl
  have completion : task.completion world = course.ending.time course.after := by
    rw [Task.completion, alone, Ending.time_under]
  obtain ⟨byDeadline, bySignal⟩ := context.firingTime_le world.clock
  rcases described.cases (context :: world.guards) with
    ⟨inTime, run⟩ | ⟨depth, instant, error, overtaking, late, run⟩
  · have own : task.within context world = task.alone world :=
      (within_of_returned running.fault? course.returned run).trans alone.symm
    have le : task.completion world ≤ context.firingTime world.clock := by
      rw [completion]
      rcases course.time_le inTime with past | inTime
      · exact past.trans running.lt_firingTime.le
      · exact inTime.trans (world.limit_cons_le context world.guards)
    rw [own]
    exact .completed (le.trans byDeadline) (le.trans bySignal)
  · have notBefore : WithTop.some instant ≤ task.completion world := by
      rw [completion]
      exact not_lt.mp fun early => late (course.inTime_of_lt early)
    -- either the context of the call itself has fired, or one further out
    rcases world.overtaking?_cons context world.guards with
      ⟨own, reason, fires, _, first⟩ | ⟨later, first⟩
    · rw [overtaking] at first
      obtain ⟨rfl, same⟩ := Prod.mk.inj (Option.some.inj first)
      obtain ⟨rfl, rfl⟩ := Prod.mk.inj same
      have ended : task.within context world = (.failed error, _) :=
        within_of_fired running.fault? run
      rw [ended]
      have ahead := running.lt_firingTime
      rw [Context.firingTime, fires] at ahead
      refine verdict_of_firing fires notBefore ?_
      change (course.cut instant).clock.now = instant
      rw [course.cutClock]
      exact max_eq_right (WithTop.coe_lt_coe.mp ahead).le
    · have outer : world.overtaking? = some (depth, instant, error) := first.symm.trans overtaking
      have dropped : task.within context world = (.overtaken depth error, _) :=
        within_of_overtaken running.fault? (depth_ne_of_overtaking outer) run
      have time : world.limit = WithTop.some instant := World.limit_of_overtaking outer
      have le : WithTop.some instant ≤ context.firingTime world.clock := time ▸ later
      rw [dropped]
      exact .dropped outer notBefore (le.trans byDeadline) (le.trans bySignal)

end Task

namespace Context

variable {σ α : Type}

/-- A call comes out of the race with its context as whatever is through first. -/
structure Races (context : Context) (task : Task σ α) (world : World σ) : Prop where
  /-- After a cancellation no call is started, whatever call it is. -/
  alreadyCancelled : context.isCancelled world.clock = true → ∀ call : Task σ α,
    call.within context world = (.failed .cancelled, world)
  alreadyExpired : context.isCancelled world.clock = false →
    context.expiry ≤ WithTop.some world.clock.now →
    ∃ deadline, context.deadline? = some deadline ∧ ∀ call : Task σ α,
      call.within context world = (.failed (.timeout deadline.budget), world)
  verdict : context.Running world.clock → Verdict context task world (task.within context world)
  returns : world.guards = [] → (task.within context world).1.Returned
  completes : context.Running world.clock → (task.within context world).1.Returned →
    task.completion world < context.expiry →
    task.completion world < context.cancellation world.clock →
      task.within context world = task.alone world
  expires : context.Running world.clock → (task.within context world).1.Returned →
    context.expiry < task.completion world →
    context.expiry < context.cancellation world.clock →
      ∃ deadline after, context.deadline? = some deadline ∧
        task.within context world = (.failed (.timeout deadline.budget), after) ∧
        after.clock.now = deadline.instant
  cancels : context.Running world.clock → (task.within context world).1.Returned →
    context.cancellation world.clock < task.completion world →
    context.cancellation world.clock < context.expiry →
      ∃ after, task.within context world = (.failed .cancelled, after) ∧
        WithTop.some after.clock.now = context.cancellation world.clock
  /-- But for what the call itself fails with, no timeout comes before the deadline. -/
  timeoutNotEarly : ∀ budget after,
    task.within context world = (.failed (.timeout budget), after) →
      task.within context world = task.alone world ∨ context.expiry ≤ WithTop.some after.clock.now
  cancelledNotEarly : ∀ after, task.within context world = (.failed .cancelled, after) →
    task.within context world = task.alone world ∨
      context.cancellation world.clock ≤ WithTop.some after.clock.now

theorem running_cases (context : Context) (clock : Clock) :
    context.isCancelled clock = true ∨
      (context.isCancelled clock = false ∧ context.expiry ≤ WithTop.some clock.now) ∨
        context.Running clock := by
  cases cancelled : context.isCancelled clock with
  | true => exact .inl rfl
  | false =>
    rcases le_or_gt context.expiry (WithTop.some clock.now) with expired | unexpired
    · exact .inr (.inl ⟨rfl, expired⟩)
    · exact .inr (.inr ⟨cancelled, unexpired⟩)

theorem fault?_of_cancelled {context : Context} {clock : Clock}
    (cancelled : context.isCancelled clock = true) : context.fault? clock = some .cancelled := by
  rw [Context.fault?, cancelled]
  rfl

theorem fault?_of_expired {context : Context} {clock : Clock}
    (uncancelled : context.isCancelled clock = false)
    (expired : context.expiry ≤ WithTop.some clock.now) :
    ∃ deadline, context.deadline? = some deadline ∧
      context.fault? clock = some (.timeout deadline.budget) := by
  unfold expiry at expired
  unfold Context.fault?
  rw [uncancelled]
  cases held : context.deadline? with
  | none =>
    rw [held] at expired
    exact absurd expired (WithTop.not_top_le_coe _)
  | some deadline =>
    rw [held] at expired
    exact ⟨deadline, rfl, if_pos (WithTop.coe_le_coe.mp expired)⟩

end Context

namespace Verdict

variable {σ α : Type} {context : Context} {task : Task σ α} {world after : World σ}
  {result : Ending α × World σ}

theorem returns (verdict : Verdict context task world result) (unguarded : world.guards = [])
    (own : (task.alone world).1.Returned) : result.1.Returned := by
  cases verdict with
  | completed => exact own
  | expired => exact Ending.returned_failed _
  | cancelled => exact Ending.returned_failed _
  | dropped around =>
    rw [World.overtaking?, unguarded] at around
    cases around

theorem completes (verdict : Verdict context task world result) (returned : result.1.Returned)
    (beforeDeadline : task.completion world < context.expiry)
    (beforeSignal : task.completion world < context.cancellation world.clock) :
    result = task.alone world := by
  cases verdict with
  | completed => rfl
  | expired _ byCompletion => exact absurd beforeDeadline (not_lt.mpr byCompletion)
  | cancelled byCompletion => exact absurd beforeSignal (not_lt.mpr byCompletion)
  | dropped => exact absurd rfl (returned _ _)

theorem expires (verdict : Verdict context task world result) (returned : result.1.Returned)
    (beforeCompletion : context.expiry < task.completion world)
    (beforeSignal : context.expiry < context.cancellation world.clock) :
    ∃ deadline after, context.deadline? = some deadline ∧
      result = (.failed (.timeout deadline.budget), after) ∧
      after.clock.now = deadline.instant := by
  cases verdict with
  | completed byDeadline => exact absurd beforeCompletion (not_lt.mpr byDeadline)
  | expired held _ _ clock => exact ⟨_, _, held, rfl, clock⟩
  | cancelled _ byDeadline => exact absurd beforeSignal (not_lt.mpr byDeadline)
  | dropped => exact absurd rfl (returned _ _)

theorem cancels (verdict : Verdict context task world result) (returned : result.1.Returned)
    (beforeCompletion : context.cancellation world.clock < task.completion world)
    (beforeDeadline : context.cancellation world.clock < context.expiry) :
    ∃ after, result = (.failed .cancelled, after) ∧
      WithTop.some after.clock.now = context.cancellation world.clock := by
  cases verdict with
  | completed _ bySignal => exact absurd beforeCompletion (not_lt.mpr bySignal)
  | expired _ _ bySignal => exact absurd beforeDeadline (not_lt.mpr bySignal)
  | cancelled _ _ clock => exact ⟨_, rfl, clock⟩
  | dropped => exact absurd rfl (returned _ _)

theorem timeout_not_early (verdict : Verdict context task world result) {budget : Duration}
    (timeout : result = (.failed (.timeout budget), after)) :
    result = task.alone world ∨ context.expiry ≤ WithTop.some after.clock.now := by
  cases verdict with
  | completed => exact .inl rfl
  | expired held _ _ clock =>
    obtain ⟨_, rfl⟩ := Prod.mk.inj timeout
    right
    rw [Context.expiry, held, clock]
    exact le_rfl
  | cancelled => cases timeout
  | dropped => cases timeout

theorem cancelled_not_early (verdict : Verdict context task world result)
    (cancelled : result = (.failed .cancelled, after)) :
    result = task.alone world ∨
      context.cancellation world.clock ≤ WithTop.some after.clock.now := by
  cases verdict with
  | completed => exact .inl rfl
  | expired => cases cancelled
  | cancelled _ _ clock =>
    obtain ⟨_, rfl⟩ := Prod.mk.inj cancelled
    exact .inr clock.ge
  | dropped => cases cancelled

end Verdict

namespace Task

variable {σ α : Type}

theorem Timed.alone_returned {task : Task σ α} (timed : task.Timed) (world : World σ) :
    (task.alone world).1.Returned := by
  obtain ⟨course, described⟩ := timed.described world
  rw [Task.alone, described.ends [] course.unlimited]
  exact course.returned

theorem Timed.races {task : Task σ α} (timed : task.Timed) (context : Context) (world : World σ) :
    context.Races task world where
  alreadyCancelled cancelled call := within_of_fault (Context.fault?_of_cancelled cancelled)
  alreadyExpired uncancelled expired := by
    obtain ⟨deadline, held, fault⟩ := Context.fault?_of_expired uncancelled expired
    exact ⟨deadline, held, fun call => within_of_fault fault⟩
  verdict := timed.verdict
  returns unguarded := by
    rcases context.running_cases world.clock with cancelled | ⟨uncancelled, expired⟩ | running
    · rw [within_of_fault (Context.fault?_of_cancelled cancelled)]
      exact Ending.returned_failed _
    · obtain ⟨deadline, _, fault⟩ := Context.fault?_of_expired uncancelled expired
      rw [within_of_fault fault]
      exact Ending.returned_failed _
    · exact (timed.verdict running).returns unguarded (timed.alone_returned world)
  completes running := (timed.verdict running).completes
  expires running := (timed.verdict running).expires
  cancels running := (timed.verdict running).cancels
  timeoutNotEarly := by
    intro budget after timeout
    rcases context.running_cases world.clock with cancelled | ⟨uncancelled, expired⟩ | running
    · rw [within_of_fault (Context.fault?_of_cancelled cancelled)] at timeout
      cases timeout
    · obtain ⟨deadline, held, fault⟩ := Context.fault?_of_expired uncancelled expired
      rw [within_of_fault fault] at timeout
      obtain ⟨_, rfl⟩ := Prod.mk.inj timeout
      exact .inr expired
    · exact (timed.verdict running).timeout_not_early timeout
  cancelledNotEarly := by
    intro after cancelled
    rcases context.running_cases world.clock with already | ⟨uncancelled, expired⟩ | running
    · rw [within_of_fault (Context.fault?_of_cancelled already)] at cancelled
      obtain ⟨_, rfl⟩ := Prod.mk.inj cancelled
      exact .inr ((context.isCancelled_iff world.clock).mp already)
    · obtain ⟨deadline, held, fault⟩ := Context.fault?_of_expired uncancelled expired
      rw [within_of_fault fault] at cancelled
      cases cancelled
    · exact (timed.verdict running).cancelled_not_early cancelled

end Task

namespace Recorder

theorem timed_answer (session? : Option SessionId) (sql : String) (args : List Value)
    (take : Recorder → Except Error α × Recorder) : (answer session? sql args take).Timed := by
  refine .bind (.prompt (Task.prompt_onBackend _)) fun _ => ?_
  refine .bind (.prompt (Task.prompt_read fun _ _ => rfl)) fun delay => ?_
  refine .bind (Task.timed_wait delay) fun _ => ?_
  exact .bind (.prompt (Task.prompt_onBackend take)) fun result =>
    .prompt (Task.prompt_ofExcept result)

end Recorder

/-- A call under a context is not started when the signal is set or else the deadline over; else
what is through first decides, the call itself, the deadline or the signal, and of what is through
together any of it. The signal is set by whoever cancels through a canceller of it, for all contexts
that share it, and by nothing else that a program does with contexts and cancellers. -/
theorem race_decided_by_the_first {σ α : Type} {task : Task σ α} (timed : task.Timed)
    (context : Context) (world : World σ) :
    context.Races task world ∧ ∀ steps, Handles.Obedient steps :=
  ⟨timed.races context world, Handles.obedient⟩

/-- A statement that takes five nanoseconds, under a copy of a context that is cancelled after three
through a clone of its canceller. -/
theorem race_decided_by_the_first_cancelled :
    let steps : List Handling := [.withCancel "ctx", .limit "ctx" (.timeout ⟨4⟩),
      .cloneContext "ctx" "copy", .cloneCanceller "ctx" "clone", .dropCanceller "ctx",
      .cancelAfter "clone" ⟨3⟩, .dropCanceller "clone"]
    let handles := Handles.start.run steps
    let world : World Recorder :=
      { World.start { Recorder.empty with delay := ⟨5⟩ } with clock := handles.clock }
    let call := Recorder.answer none "SELECT 1" [] Recorder.takeRows
    ∃ context, handles.context? "copy" = some context ∧ call.Timed ∧
      ∃ after, call.within context world = (.failed .cancelled, after) ∧ after.clock.now = 3 := by
  intro steps handles world call
  have timed : call.Timed := Recorder.timed_answer none "SELECT 1" [] Recorder.takeRows
  have held : handles.context? "copy" = some ⟨some ⟨4, ⟨4⟩⟩, some 0⟩ := by decide +kernel
  have clock : handles.clock = ⟨0, [⟨some 3, some 3, by decide⟩]⟩ := by decide +kernel
  have clocked : world = { World.start { Recorder.empty with delay := ⟨5⟩ } with
      clock := ⟨0, [⟨some 3, some 3, by decide⟩]⟩ } := by
    rw [← clock]
  have completion : call.completion world = WithTop.some 5 := by
    rw [clocked]
    rfl
  have cancellation :
      Context.cancellation ⟨some ⟨4, ⟨4⟩⟩, some 0⟩ world.clock = WithTop.some 3 := by
    rw [clocked]
    rfl
  have running : Context.Running ⟨some ⟨4, ⟨4⟩⟩, some 0⟩ world.clock := by
    rw [clocked]
    exact ⟨rfl, WithTop.coe_lt_coe.mpr (by decide)⟩
  obtain ⟨races, _⟩ := race_decided_by_the_first timed ⟨some ⟨4, ⟨4⟩⟩, some 0⟩ world
  obtain ⟨after, cancelled, time⟩ := races.cancels running (races.returns rfl)
    (by rw [cancellation, completion]; exact WithTop.coe_lt_coe.mpr (by decide))
    (by rw [cancellation]; exact WithTop.coe_lt_coe.mpr (by decide))
  rw [cancellation] at time
  exact ⟨_, held, timed, after, cancelled, WithTop.coe_eq_coe.mp time⟩
end FluentSql
