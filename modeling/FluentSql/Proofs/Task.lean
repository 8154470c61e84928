import FluentSql.Task

/-! Running calls one after another: what comes of a sequence by the ending of its first call, of a
wait, and of a call under a context. -/
namespace FluentSql.Task

variable {σ α β : Type}

theorem bind_apply (task : Task σ α) (next : α → Task σ β) (world : World σ) :
    (task >>= next) world = match (task world).1 with
      | .done value => next value (task world).2
      | .failed error => (.failed error, (task world).2)
      | .overtaken depth error => (.overtaken depth error, (task world).2)
      | .panicked message => (.panicked message, (task world).2)
      | .stuck => (.stuck, (task world).2) := by
  cases run : task world with
  | mk ending after => cases ending <;> simp [Bind.bind, run]

theorem bind_of_done {task : Task σ α} {world after : World σ} {value : α}
    (run : task world = (.done value, after)) (next : α → Task σ β) :
    (task >>= next) world = next value after := by
  rw [bind_apply, run]

theorem bind_of_failed {task : Task σ α} {world after : World σ} {error : Error}
    (run : task world = (.failed error, after)) (next : α → Task σ β) :
    (task >>= next) world = (.failed error, after) := by
  rw [bind_apply, run]

/-- A call that is done goes on; behind any other nothing changes. -/
theorem bind_cases (task : Task σ α) (next : α → Task σ β) (world : World σ) :
    (∃ value after, task world = (.done value, after) ∧
      (task >>= next) world = next value after) ∨
    ((task >>= next) world).2 = (task world).2 := by
  cases run : task world with
  | mk ending after =>
    cases ending with
    | done value => exact Or.inl ⟨value, after, rfl, bind_of_done run next⟩
    | _ => exact Or.inr (by rw [bind_apply, run])

theorem bind_of_overtaken {task : Task σ α} {world after : World σ} {depth : Nat} {error : Error}
    (run : task world = (.overtaken depth error, after)) (next : α → Task σ β) :
    (task >>= next) world = (.overtaken depth error, after) := by
  rw [bind_apply, run]

theorem attempt_of_done {task : Task σ α} {world after : World σ} {value : α}
    (run : task world = (.done value, after)) :
    task.attempt world = (.done (.ok value), after) := by
  simp only [attempt, run]

theorem attempt_of_failed {task : Task σ α} {world after : World σ} {error : Error}
    (run : task world = (.failed error, after)) :
    task.attempt world = (.done (.error error), after) := by
  simp only [attempt, run]

theorem attempt_of_overtaken {task : Task σ α} {world after : World σ} {depth : Nat} {error : Error}
    (run : task world = (.overtaken depth error, after)) :
    task.attempt world = (.overtaken depth error, after) := by
  simp only [attempt, run]

theorem settle_of_run {task : Task σ α} {world after : World σ} {ending : Ending α}
    (run : task world = (ending, after)) (change : Ending α → World σ → World σ) :
    task.settle change world = (ending, change ending after) := by
  unfold settle
  rw [run]

/-- A wait for a time ends there, unless a context ends it before. Only the clock moves. -/
theorem wait_cases (span : Duration) (world : World σ) :
    (∃ instant, wait span world = (.done (), world.advance instant)) ∨
      ∃ depth instant error, world.overtaking? = some (depth, instant, error) ∧
        wait span world = (.overtaken depth error, world.advance instant) := by
  unfold wait waitUntil
  cases world.overtaking? with
  | none => exact .inl ⟨_, rfl⟩
  | some overtaking =>
    obtain ⟨depth, instant, error⟩ := overtaking
    dsimp only
    split
    · exact .inl ⟨_, rfl⟩
    · exact .inr ⟨depth, instant, error, rfl, rfl⟩

/-- A call that waits for ever does not go on. -/
theorem bind_waitUntil_none (next : Unit → Task σ α) (world : World σ) :
    ((waitUntil none >>= next) world).2.backend = world.backend ∧
      ∀ value, ((waitUntil none >>= next) world).1 ≠ .done value := by
  cases found : world.overtaking? with
  | none =>
    have run : waitUntil none world = (.stuck, world) := by
      unfold waitUntil
      rw [found]
    rw [bind_apply, run]
    exact ⟨rfl, nofun⟩
  | some overtaking =>
    obtain ⟨depth, instant, error⟩ := overtaking
    have run : waitUntil none world = (.overtaken depth error, world.advance instant) := by
      unfold waitUntil
      rw [found]
    rw [bind_of_overtaken run]
    exact ⟨rfl, nofun⟩

/-- A call under a context is not started, or leaves the world that it leaves with one context more
around it. -/
theorem world_within (task : Task σ α) (context : Context) (world : World σ) :
    (task.within context world).2 = world ∨
      (task.within context world).2 =
        { (task { world with guards := context :: world.guards }).2 with
          guards := world.guards } := by
  unfold within
  cases context.fault? world.clock with
  | some error => exact .inl rfl
  | none =>
    right
    dsimp only
    split
    · split
      · rfl
      · rfl
    · rfl

end FluentSql.Task
