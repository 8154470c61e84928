import FluentSql.Proofs.Task

/-! How calls conduct themselves: they leave the contexts around them and the open transactions as
they were, they end, and they end early only by a context that is around them. -/
namespace FluentSql

namespace Context

/-- The errors with which a context ends a call. -/
def Ends (context : Context) (error : Error) : Prop :=
  (context.signal?.isSome = true ∧ error = .cancelled) ∨
    ∃ deadline, context.deadline? = some deadline ∧ error = .timeout deadline.budget

theorem ends_of_firing {context : Context} {clock : Clock} {instant : Instant} {error : Error}
    (fires : context.firing? clock = some (instant, error)) : context.Ends error := by
  unfold firing? at fires
  cases signalled : context.signal? with
  | none =>
    cases limited : context.deadline? with
    | none => simp [signalled, limited] at fires
    | some deadline =>
      simp only [signalled, limited, Option.bind_none, Option.some.injEq, Prod.mk.injEq] at fires
      exact Or.inr ⟨deadline, limited, fires.2.symm⟩
  | some signal =>
    have signal : context.signal?.isSome = true := by rw [signalled]; rfl
    dsimp only at fires
    split at fires
    · rename_i limited
      split at fires
      · exact Or.inl ⟨signal, (Prod.mk.inj (Option.some.inj fires)).2.symm⟩
      · exact Or.inr ⟨_, limited, (Prod.mk.inj (Option.some.inj fires)).2.symm⟩
    · exact Or.inl ⟨signal, (Prod.mk.inj (Option.some.inj fires)).2.symm⟩
    · rename_i limited
      exact Or.inr ⟨_, limited, (Prod.mk.inj (Option.some.inj fires)).2.symm⟩
    · cases fires

theorem ends_of_fault {context : Context} {clock : Clock} {error : Error}
    (fault : context.fault? clock = some error) : context.Ends error := by
  unfold fault? at fault
  split at fault
  · rename_i cancelled
    have signal : context.signal?.isSome = true := by
      unfold isCancelled at cancelled
      cases held : context.signal? with
      | none => simp [held] at cancelled
      | some signal => rfl
    exact Or.inl ⟨signal, (Option.some.inj fault).symm⟩
  · split at fault
    · rename_i deadline limited
      split at fault
      · exact Or.inr ⟨deadline, limited, (Option.some.inj fault).symm⟩
      · cases fault
    · cases fault

end Context

/-- An error of the guard that has so many guards around it. -/
def Guarded (guards : List Context) (depth : Nat) (error : Error) : Prop :=
  ∃ inner guard outer, guards = inner ++ guard :: outer ∧ outer.length = depth ∧ guard.Ends error

theorem Guarded.depth_lt {guards : List Context} (guarded : Guarded guards depth error) :
    depth < guards.length := by
  obtain ⟨inner, guard, outer, rfl, rfl, _⟩ := guarded
  simp only [List.length_append, List.length_cons]
  omega

theorem guarded_self {context : Context} (ends : context.Ends error) (guards : List Context) :
    Guarded (context :: guards) guards.length error := ⟨[], context, guards, rfl, rfl, ends⟩

theorem Guarded.cons (guarded : Guarded guards depth error) (context : Context) :
    Guarded (context :: guards) depth error := by
  obtain ⟨inner, guard, outer, rfl, rfl, ends⟩ := guarded
  exact ⟨context :: inner, guard, outer, rfl, rfl, ends⟩

/-- Under one more context, either it fires or one of those around it. -/
theorem Guarded.innermost_or_outer {context : Context} {guards : List Context}
    (guarded : Guarded (context :: guards) depth error) :
    (depth = guards.length ∧ context.Ends error) ∨
      (depth ≠ guards.length ∧ Guarded guards depth error) := by
  obtain ⟨inner, guard, outer, split, rfl, ends⟩ := guarded
  cases inner with
  | nil =>
    obtain ⟨rfl, rfl⟩ := List.cons.inj split
    exact Or.inl ⟨rfl, ends⟩
  | cons first inner =>
    have tails : context :: guards = first :: (inner ++ guard :: outer) := split
    obtain ⟨_, behind⟩ := List.cons.inj tails
    have longer : guards.length = inner.length + (outer.length + 1) := by
      rw [behind, List.length_append, List.length_cons]
    right
    refine ⟨?_, inner, guard, outer, behind, rfl, ends⟩
    omega

theorem guarded_of_overtaking {world : World σ}
    (overtaking : world.overtaking? = some (depth, instant, error)) :
    Guarded world.guards depth error := by
  have general (guards : List Context) (depth : Nat) (instant : Instant) (error : Error)
      (found : World.overtaking?.go world guards = some (depth, instant, error)) :
      Guarded guards depth error := by
    induction guards generalizing depth instant error with
    | nil => cases found
    | cons guard outer ih =>
      unfold World.overtaking?.go at found
      split at found
      · exact (ih depth instant error found).cons guard
      · rename_i fires _
        cases found
        exact guarded_self (Context.ends_of_firing fires) outer
      · rename_i fires behind
        split at found
        · cases found
          exact guarded_self (Context.ends_of_firing fires) outer
        · cases found
          exact (ih _ _ _ behind).cons guard
  exact general world.guards depth instant error overtaking

/-- A call that does not wait for ever, and is ended early only by a context around it. -/
def Ending.Proper (guards : List Context) : Ending α → Prop
  | .overtaken depth error => Guarded guards depth error
  | .stuck => False
  | _ => True

/-- The contexts around a call and the open transactions are as they were, and it ended properly. -/
structure Kept (world : World σ) (result : Ending α × World σ) : Prop where
  guards : result.2.guards = world.guards
  sessions : result.2.sessions = world.sessions
  proper : result.1.Proper world.guards

namespace Task

variable {σ α β : Type}

/-- A call that leaves the contexts around it and the open transactions alone, and ends properly. -/
def Keeps (task : Task σ α) : Prop := ∀ world, Kept world (task world)

theorem keeps_pure (value : α) : Keeps (pure value : Task σ α) := fun _ => ⟨rfl, rfl, trivial⟩

theorem keeps_fail (error : Error) : Keeps (fail error : Task σ α) := fun _ => ⟨rfl, rfl, trivial⟩

theorem keeps_panic (message : String) : Keeps (panic message : Task σ α) :=
  fun _ => ⟨rfl, rfl, trivial⟩

theorem keeps_ofExcept (result : Except Error α) : Keeps (ofExcept result : Task σ α) := by
  cases result with
  | error error => exact keeps_fail error
  | ok value => exact keeps_pure value

theorem keeps_report (event : LogEvent) : Keeps (report event : Task σ Unit) :=
  fun _ => ⟨rfl, rfl, trivial⟩

theorem keeps_read (part : World σ → α) : Keeps (read part) := fun _ => ⟨rfl, rfl, trivial⟩

theorem keeps_onBackend (step : σ → α × σ) : Keeps (onBackend step) :=
  fun _ => ⟨rfl, rfl, trivial⟩

theorem Keeps.bind {task : Task σ α} {next : α → Task σ β} (keeps : task.Keeps)
    (rest : ∀ value, (next value).Keeps) : (task >>= next).Keeps := by
  intro world
  obtain ⟨guards, sessions, proper⟩ := keeps world
  rw [bind_apply]
  cases run : (task world).1 with
  | done value =>
    obtain ⟨lastGuards, lastSessions, last⟩ := rest value (task world).2
    rw [guards] at last
    exact ⟨lastGuards.trans guards, lastSessions.trans sessions, last⟩
  | failed error => exact ⟨guards, sessions, trivial⟩
  | overtaken depth error =>
    rw [run] at proper
    exact ⟨guards, sessions, proper⟩
  | panicked message => exact ⟨guards, sessions, trivial⟩
  | stuck =>
    rw [run] at proper
    exact absurd proper id

theorem Keeps.attempt {task : Task σ α} (keeps : task.Keeps) : task.attempt.Keeps := by
  intro world
  obtain ⟨guards, sessions, proper⟩ := keeps world
  unfold Task.attempt
  cases run : task world with
  | mk ending after =>
    rw [run] at guards sessions proper
    cases ending <;> exact ⟨guards, sessions, proper⟩

/-- A context that fires ends the call with its own error; one further out ends both. -/
theorem Keeps.within {task : Task σ α} (keeps : task.Keeps) (context : Context) :
    (task.within context).Keeps := by
  intro world
  unfold Task.within
  cases context.fault? world.clock with
  | some error => exact ⟨rfl, rfl, trivial⟩
  | none =>
    obtain ⟨_, sessions, proper⟩ := keeps { world with guards := context :: world.guards }
    cases run : task { world with guards := context :: world.guards } with
    | mk ending after =>
      rw [run] at sessions proper
      cases ending with
      | overtaken depth error =>
        rcases proper.innermost_or_outer with ⟨own, _⟩ | ⟨other, outer⟩
        · dsimp only
          rw [if_pos own]
          exact ⟨rfl, sessions, trivial⟩
        · dsimp only
          rw [if_neg other]
          exact ⟨rfl, sessions, outer⟩
      | stuck => exact absurd proper id
      | _ => exact ⟨rfl, sessions, trivial⟩

theorem keeps_wait (span : Duration) : Keeps (wait span : Task σ Unit) := by
  intro world
  rcases wait_cases span world with ⟨instant, run⟩ | ⟨depth, instant, error, found, run⟩
  · rw [run]
    exact ⟨rfl, rfl, trivial⟩
  · rw [run]
    exact ⟨rfl, rfl, guarded_of_overtaking found⟩

end Task
end FluentSql
