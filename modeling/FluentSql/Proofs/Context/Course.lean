import Mathlib.Order.MinMax
import Mathlib.Order.WithBot
import FluentSql.Proofs.Conduct

/-! Calls that take time, under contexts that may end them. What such a call does depends on the
contexts around it only by the time at which the first of them fires: it ends as it would on its
own, or it is cut off then. -/
namespace FluentSql

namespace Ending

/-- When a call that ends in a world is through; one that waits for ever never is. -/
def time (ending : Ending α) (after : World σ) : WithTop Instant :=
  match ending with
  | .stuck => ⊤
  | _ => WithTop.some after.clock.now

theorem time_of_ne_stuck {ending : Ending α} (goesOn : ending ≠ .stuck) (after : World σ) :
    ending.time after = WithTop.some after.clock.now := by
  cases ending with
  | stuck => exact absurd rfl goesOn
  | _ => rfl

theorem le_time (ending : Ending α) (after : World σ) :
    WithTop.some after.clock.now ≤ ending.time after := by
  cases ending with
  | stuck => exact le_top
  | _ => exact le_rfl

/-- It is an ending of the call: no context further out has ended the call along with its own. -/
def Returned (ending : Ending α) : Prop := ∀ depth error, ending ≠ .overtaken depth error

theorem returned_done (value : α) : (done value).Returned := by
  intro depth error same
  cases same

theorem returned_failed (error : Error) : (failed error : Ending α).Returned := by
  intro depth other same
  cases same

theorem returned_panicked (message : String) : (panicked message : Ending α).Returned := by
  intro depth error same
  cases same

theorem returned_stuck : (stuck : Ending α).Returned := by
  intro depth error same
  cases same

/-- What an ending is to those outside a context that has so many around it. -/
def outside (depth : Nat) : Ending α → Ending α
  | .overtaken fired error => if fired = depth then .failed error else .overtaken fired error
  | ending => ending

theorem outside_of_returned {ending : Ending α} (returned : ending.Returned) (depth : Nat) :
    ending.outside depth = ending := by
  cases ending with
  | overtaken fired error => exact absurd rfl (returned fired error)
  | _ => rfl

end Ending

namespace Context

/-- When a context fires. -/
def firingTime (context : Context) (clock : Clock) : WithTop Instant :=
  (context.firing? clock).elim ⊤ fun fired => WithTop.some fired.1

theorem firing?_congr (context : Context) {clock other : Clock}
    (signals : clock.signals = other.signals) : context.firing? clock = context.firing? other := by
  have same : clock.firing? = other.firing? := by
    funext signal
    rw [Clock.firing?, signals, Clock.firing?]
  rw [firing?, same, firing?]

end Context

namespace World

variable {σ : Type}

/-- The world with other contexts around. -/
def under (world : World σ) (guards : List Context) : World σ := { world with guards := guards }

/-- When the first context around fires. -/
def limit (world : World σ) : WithTop Instant :=
  world.overtaking?.elim ⊤ fun first => WithTop.some first.2.1

theorem overtaking_go_congr {world other : World σ}
    (signals : world.clock.signals = other.clock.signals) (guards : List Context) :
    overtaking?.go world guards = overtaking?.go other guards := by
  induction guards with
  | nil => rfl
  | cons guard outer ih =>
    rw [overtaking?.go, overtaking?.go, guard.firing?_congr signals, ih]

theorem overtaking?_congr {world other : World σ} (guards : world.guards = other.guards)
    (signals : world.clock.signals = other.clock.signals) :
    world.overtaking? = other.overtaking? := by
  rw [overtaking?, overtaking?, guards, overtaking_go_congr signals]

theorem limit_congr {world other : World σ} (guards : world.guards = other.guards)
    (signals : world.clock.signals = other.clock.signals) : world.limit = other.limit := by
  rw [limit, limit, overtaking?_congr guards signals]

theorem limit_of_overtaking {world : World σ}
    (overtaking : world.overtaking? = some (depth, instant, error)) :
    world.limit = WithTop.some instant := by
  rw [limit, overtaking]
  rfl

/-- Under one more context, it ends the call when it fires before all the others, else they do as
they did. -/
theorem overtaking?_cons (world : World σ) (context : Context) (guards : List Context) :
    (∃ instant error, context.firing? world.clock = some (instant, error) ∧
        WithTop.some instant < (world.under guards).limit ∧
        (world.under (context :: guards)).overtaking? = some (guards.length, instant, error)) ∨
      ((world.under guards).limit ≤ context.firingTime world.clock ∧
        (world.under (context :: guards)).overtaking? = (world.under guards).overtaking?) := by
  have signals : (world.under (context :: guards)).clock.signals =
      (world.under guards).clock.signals := rfl
  have unfolded : (world.under (context :: guards)).overtaking? =
      overtaking?.go (world.under guards) (context :: guards) :=
    overtaking_go_congr signals (context :: guards)
  have outer : overtaking?.go (world.under guards) guards = (world.under guards).overtaking? := rfl
  rw [unfolded, overtaking?.go, outer, limit, Context.firingTime]
  cases fires : context.firing? (world.under guards).clock with
  | none =>
    right
    have none : context.firing? world.clock = none := fires
    rw [none]
    exact ⟨le_top, rfl⟩
  | some fired =>
    obtain ⟨instant, error⟩ := fired
    have some : context.firing? world.clock = some (instant, error) := fires
    rw [some]
    cases (world.under guards).overtaking? with
    | none => exact .inl ⟨instant, error, rfl, WithTop.coe_lt_top instant, rfl⟩
    | some first =>
      by_cases sooner : instant < first.2.1
      · exact .inl ⟨instant, error, rfl, WithTop.coe_lt_coe.mpr sooner, if_pos sooner⟩
      · exact .inr ⟨WithTop.coe_le_coe.mpr (Nat.le_of_not_lt sooner), if_neg sooner⟩

end World

namespace Task

variable {σ α : Type}

/-- A step that takes no time, and sees nothing of the contexts around it. -/
structure Prompt (task : Task σ α) : Prop where
  clock : ∀ world, (task world).2.clock = world.clock
  blind : ∀ world guards, task (world.under guards) = ((task world).1, (task world).2.under guards)
  goesOn : ∀ world, (task world).1 ≠ .stuck
  returns : ∀ world, (task world).1.Returned

/-- A change that takes no time, and sees neither the contexts around it nor which of them has ended
the call. -/
structure Discreet (change : Ending α → World σ → World σ) : Prop where
  clock : ∀ ending world, (change ending world).clock = world.clock
  blind : ∀ ending world guards,
    change ending (world.under guards) = (change ending world).under guards
  unnamed : ∀ depth error other another,
    change (.overtaken depth error) = change (.overtaken other another)

/-- Calls made of prompt steps and of waiting, with contexts of their own. -/
inductive Timed : {α : Type} → Task σ α → Prop
  | prompt {α : Type} {task : Task σ α} (prompt : task.Prompt) : Timed task
  | waitUntil (target? : Option Instant) : Timed (waitUntil target?)
  | bind {α β : Type} {task : Task σ α} {next : α → Task σ β} (first : Timed task)
    (rest : ∀ value, Timed (next value)) : Timed (task >>= next)
  | attempt {α : Type} {task : Task σ α} (inner : Timed task) : Timed task.attempt
  | settle {α : Type} {task : Task σ α} {change : Ending α → World σ → World σ} (inner : Timed task)
    (discreet : Discreet change) : Timed (task.settle change)
  | within {α : Type} {task : Task σ α} (inner : Timed task) (context : Context) :
    Timed (task.within context)

theorem prompt_fail (error : Error) : Prompt (fail error : Task σ α) :=
  ⟨fun _ => rfl, fun _ _ => rfl, fun _ => nofun, fun _ => Ending.returned_failed error⟩

theorem prompt_pure (value : α) : Prompt (pure value : Task σ α) :=
  ⟨fun _ => rfl, fun _ _ => rfl, fun _ => nofun, fun _ => Ending.returned_done value⟩

theorem prompt_ofExcept (result : Except Error α) : Prompt (ofExcept result : Task σ α) := by
  cases result with
  | error error => exact prompt_fail error
  | ok value => exact prompt_pure value

theorem prompt_onBackend (step : σ → α × σ) : Prompt (onBackend step) :=
  ⟨fun _ => rfl, fun _ _ => rfl, fun _ => nofun, fun _ => Ending.returned_done _⟩

theorem prompt_read {part : World σ → α}
    (blind : ∀ world guards, part (world.under guards) = part world) : Prompt (read part) :=
  ⟨fun _ => rfl, fun world guards => by rw [read, blind]; rfl, fun _ => nofun,
    fun _ => Ending.returned_done _⟩

theorem timed_wait (span : Duration) : Timed (wait span : Task σ Unit) := by
  have two : (wait span : Task σ Unit) = read (fun world => world.clock.now) >>= fun now =>
      Task.waitUntil (some (now + span.nanoseconds)) := rfl
  rw [two]
  exact .bind (.prompt (prompt_read fun _ _ => rfl)) fun _ => .waitUntil _

end Task

/-- All that may become of a run from a world: how it ends on its own, the world that it leaves when
it is cut off at a time, and whether it ends before a context that fires at a time ends it. -/
structure Course (σ α : Type) (world : World σ) where
  ending : Ending α
  after : World σ
  cut : Instant → World σ
  inTime : WithTop Instant → Prop
  returned : ending.Returned
  signals : after.clock.signals = world.clock.signals
  forward : world.clock.now ≤ after.clock.now
  cutClock : ∀ instant, (cut instant).clock = world.clock.advance instant
  mono : ∀ {limit later}, limit ≤ later → inTime limit → inTime later
  unlimited : inTime ⊤
  /-- Nothing goes on behind the time at which it is cut off. -/
  time_le : ∀ {limit}, inTime limit →
    ending.time after ≤ WithTop.some world.clock.now ∨ ending.time after ≤ limit
  inTime_of_lt : ∀ {limit}, ending.time after < limit → inTime limit

namespace Course

variable {σ α β : Type} {world : World σ}

/-- The course of a step that takes no time. -/
def ofPrompt {task : Task σ α} (prompt : task.Prompt) (world : World σ) : Course σ α world where
  ending := (task world).1
  after := (task world).2
  cut := world.advance
  inTime _ := True
  returned := prompt.returns world
  signals := by rw [prompt.clock]
  forward := by rw [prompt.clock]
  cutClock _ := rfl
  mono _ _ := trivial
  unlimited := trivial
  time_le _ := by
    rw [Ending.time_of_ne_stuck (prompt.goesOn world), prompt.clock]
    exact .inl le_rfl
  inTime_of_lt _ := trivial

/-- What is waited for is there already, or by the limit. -/
def Due (target? : Option Instant) (world : World σ) (limit : WithTop Instant) : Prop :=
  target?.elim ⊤ WithTop.some ≤ WithTop.some world.clock.now ∨ target?.elim ⊤ WithTop.some ≤ limit

/-- The course of a wait. -/
def wait (target? : Option Instant) (world : World σ) : Course σ Unit world where
  ending := target?.elim .stuck fun _ => .done ()
  after := target?.elim world world.advance
  cut := world.advance
  inTime := Due target? world
  returned := by
    cases target? with
    | none => exact Ending.returned_stuck
    | some target => exact Ending.returned_done ()
  signals := by cases target? <;> rfl
  forward := by
    cases target? with
    | none => exact Nat.le_refl _
    | some target => exact Nat.le_max_left _ _
  cutClock _ := rfl
  mono le due := due.imp_right fun inTime => inTime.trans le
  unlimited := .inr le_top
  time_le due := by
    cases target? with
    | none => exact due
    | some target =>
      change WithTop.some (max world.clock.now target) ≤ _ ∨
        WithTop.some (max world.clock.now target) ≤ _
      rcases le_total target world.clock.now with past | ahead
      · rw [max_eq_left past]
        exact .inl le_rfl
      · rw [max_eq_right ahead]
        exact due
  inTime_of_lt early := by
    cases target? with
    | none => exact absurd early not_top_lt
    | some target =>
      have due : WithTop.some target ≤ WithTop.some (max world.clock.now target) :=
        WithTop.coe_le_coe.mpr (Nat.le_max_right _ _)
      exact .inr (due.trans early.le)

/-- The course of a call with another ending and other worlds, at the same times. -/
def altered (course : Course σ α world) (ending : Ending β) (after : World σ)
    (cut : Instant → World σ) (returned : ending.Returned)
    (time : ending.time after = course.ending.time course.after)
    (clock : after.clock = course.after.clock)
    (cutClock : ∀ instant, (cut instant).clock = (course.cut instant).clock) :
    Course σ β world where
  ending := ending
  after := after
  cut := cut
  inTime := course.inTime
  returned := returned
  signals := by rw [clock, course.signals]
  forward := by rw [clock]; exact course.forward
  cutClock instant := by rw [cutClock, course.cutClock]
  mono := course.mono
  unlimited := course.unlimited
  time_le inTime := by rw [time]; exact course.time_le inTime
  inTime_of_lt early := course.inTime_of_lt (time ▸ early)

open Classical in
/-- The course of two calls one after the other. -/
noncomputable def bind (first : Course σ α world) (goesOn : first.ending ≠ .stuck)
    (next : Course σ β first.after) : Course σ β world where
  ending := next.ending
  after := next.after
  cut instant := if first.inTime (WithTop.some instant) then next.cut instant else first.cut instant
  inTime limit := first.inTime limit ∧ next.inTime limit
  returned := next.returned
  signals := next.signals.trans first.signals
  forward := first.forward.trans next.forward
  cutClock instant := by
    split
    -- cut off in the second call, which starts no later than the time of the cut
    · rename_i inTime
      have le := first.time_le inTime
      rw [Ending.time_of_ne_stuck goesOn, WithTop.coe_le_coe, WithTop.coe_le_coe] at le
      have same : max first.after.clock.now instant = max world.clock.now instant :=
        le_antisymm (max_le (le_max_iff.mpr le) (le_max_right _ _))
          (max_le_max_right _ first.forward)
      rw [next.cutClock, Clock.advance, Clock.advance, first.signals, same]
    · exact first.cutClock instant
  mono le inTime := ⟨first.mono le inTime.1, next.mono le inTime.2⟩
  unlimited := ⟨first.unlimited, next.unlimited⟩
  time_le inTime := by
    have le := first.time_le inTime.1
    rw [Ending.time_of_ne_stuck goesOn] at le
    rcases next.time_le inTime.2 with before | inTime
    · exact le.imp before.trans before.trans
    · exact .inr inTime
  inTime_of_lt early := by
    refine ⟨first.inTime_of_lt ?_, next.inTime_of_lt early⟩
    rw [Ending.time_of_ne_stuck goesOn]
    exact (WithTop.coe_le_coe.mpr next.forward).trans_lt ((Ending.le_time _ _).trans_lt early)

/-- The course of a call that a context of its own ends at a time, before it would end. -/
def endedAt (course : Course σ α world) (instant : Instant) (error : Error) : Course σ α world where
  ending := .failed error
  after := course.cut instant
  cut := course.cut
  inTime limit := WithTop.some instant < limit
  returned := Ending.returned_failed error
  signals := by rw [course.cutClock]; rfl
  forward := by rw [course.cutClock]; exact Nat.le_max_left _ _
  cutClock := course.cutClock
  mono le inTime := lt_of_lt_of_le inTime le
  unlimited := WithTop.coe_lt_top instant
  time_le sooner := by
    change WithTop.some (course.cut instant).clock.now ≤ _ ∨ WithTop.some _ ≤ _
    rw [course.cutClock, Clock.advance]
    rcases le_total instant world.clock.now with past | ahead
    · rw [max_eq_left past]
      exact .inl le_rfl
    · rw [max_eq_right ahead]
      exact .inr sooner.le
  inTime_of_lt early := by
    change WithTop.some (course.cut instant).clock.now < _ at early
    rw [course.cutClock] at early
    exact (WithTop.coe_le_coe.mpr (Nat.le_max_right _ _)).trans_lt early

/-- A task runs as the course says, whatever the contexts around it are. -/
structure Describes (course : Course σ α world) (task : Task σ α) : Prop where
  ends : ∀ guards, course.inTime (world.under guards).limit →
    task (world.under guards) = (course.ending, course.after.under guards)
  isCut : ∀ guards depth instant error,
    (world.under guards).overtaking? = some (depth, instant, error) →
    ¬ course.inTime (WithTop.some instant) →
      task (world.under guards) = (.overtaken depth error, (course.cut instant).under guards)

/-- A run ends as it does on its own, or it is cut off by the first context that fires. -/
theorem Describes.cases {course : Course σ α world} {task : Task σ α}
    (described : course.Describes task) (guards : List Context) :
    (course.inTime (world.under guards).limit ∧
        task (world.under guards) = (course.ending, course.after.under guards)) ∨
      ∃ depth instant error, (world.under guards).overtaking? = some (depth, instant, error) ∧
        ¬ course.inTime (WithTop.some instant) ∧
        task (world.under guards) =
          (.overtaken depth error, (course.cut instant).under guards) := by
  by_cases inTime : course.inTime (world.under guards).limit
  · exact .inl ⟨inTime, described.ends guards inTime⟩
  · right
    cases overtaking : (world.under guards).overtaking? with
    | none =>
      rw [World.limit, overtaking] at inTime
      exact absurd course.unlimited inTime
    | some first =>
      obtain ⟨depth, instant, error⟩ := first
      rw [World.limit_of_overtaking overtaking] at inTime
      exact ⟨depth, instant, error, rfl, inTime, described.isCut _ _ _ _ overtaking inTime⟩

theorem describes_ofPrompt {task : Task σ α} (prompt : task.Prompt) (world : World σ) :
    (ofPrompt prompt world).Describes task :=
  ⟨fun guards _ => prompt.blind world guards,
    fun _ _ _ _ _ late => absurd trivial late⟩

theorem describes_wait (target? : Option Instant) (world : World σ) :
    (wait target? world).Describes (Task.waitUntil target?) where
  ends guards inTime := by
    change Due target? world _ at inTime
    unfold Task.waitUntil
    cases overtaking : (world.under guards).overtaking? with
    | none => cases target? <;> rfl
    | some first =>
      obtain ⟨depth, instant, error⟩ := first
      rw [World.limit_of_overtaking overtaking] at inTime
      cases target? with
      | none =>
        rcases inTime with past | ahead
        · exact absurd past (WithTop.not_top_le_coe _)
        · exact absurd ahead (WithTop.not_top_le_coe _)
      | some target => exact if_pos (inTime.imp WithTop.coe_le_coe.mp WithTop.coe_le_coe.mp)
  isCut guards depth instant error overtaking late := by
    change ¬ Due target? world (WithTop.some instant) at late
    unfold Task.waitUntil
    rw [overtaking]
    cases target? with
    | none => rfl
    | some target =>
      exact if_neg fun due => late (due.imp WithTop.coe_le_coe.mpr WithTop.coe_le_coe.mpr)

theorem Describes.altered {course : Course σ α world} {task : Task σ α}
    (described : course.Describes task) {other : Task σ β} {ending : Ending β} {after : World σ}
    {cut : Instant → World σ} {returned time clock cutClock}
    (ends : ∀ guards, task (world.under guards) = (course.ending, course.after.under guards) →
      other (world.under guards) = (ending, after.under guards))
    (isCut : ∀ guards depth instant error,
      task (world.under guards) = (.overtaken depth error, (course.cut instant).under guards) →
        other (world.under guards) = (.overtaken depth error, (cut instant).under guards)) :
    (course.altered ending after cut returned time clock cutClock).Describes other :=
  ⟨fun guards inTime => ends guards (described.ends guards inTime),
    fun guards depth instant error overtaking late =>
      isCut guards depth instant error (described.isCut guards depth instant error overtaking late)⟩

theorem Describes.bind {first : Course σ α world} {task : Task σ α} {next : α → Task σ β}
    {value : α} (described : first.Describes task) (done : first.ending = .done value)
    {second : Course σ β first.after} (rest : second.Describes (next value)) :
    (first.bind (by rw [done]; exact nofun) second).Describes (task >>= next) := by
  have limits (guards : List Context) :
      (first.after.under guards).limit = (world.under guards).limit :=
    World.limit_congr rfl first.signals
  have fires (guards : List Context) :
      (first.after.under guards).overtaking? = (world.under guards).overtaking? :=
    World.overtaking?_congr rfl first.signals
  refine ⟨?ends, ?isCut⟩
  case ends =>
    intro guards inTime
    have run := described.ends guards inTime.1
    rw [done] at run
    rw [Task.bind_of_done run]
    exact rest.ends guards (by rw [limits]; exact inTime.2)
  case isCut =>
    intro guards depth instant error overtaking late
    -- the context fires in the second call or in the first
    by_cases early : first.inTime (WithTop.some instant)
    · have run := described.ends guards (by rw [World.limit_of_overtaking overtaking]; exact early)
      rw [done] at run
      rw [Task.bind_of_done run]
      rw [rest.isCut guards depth instant error ((fires guards).trans overtaking)
        fun inTime => late ⟨early, inTime⟩]
      simp only [Course.bind, if_pos early]
    · rw [Task.bind_of_overtaken (described.isCut guards depth instant error overtaking early)]
      simp only [Course.bind, if_neg early]

end Course

namespace Task

variable {σ α β : Type} {world : World σ}

/-- What a task does in a world has a course. -/
def Described (task : Task σ α) (world : World σ) : Prop :=
  ∃ course : Course σ α world, course.Describes task

/-- A task that ends as another, with the ending passed on in its own way. -/
theorem described_of_passed {course : Course σ α world} {task : Task σ α}
    (described : course.Describes task) {first : Ending α} (ended : course.ending = first)
    {other : Task σ β} {last : Ending β} (returned : last.Returned)
    (time : ∀ after : World σ, last.time after = first.time after)
    (passes : ∀ {start after}, task start = (first, after) → other start = (last, after))
    (overtakes : ∀ {start after depth error}, task start = (.overtaken depth error, after) →
      other start = (.overtaken depth error, after)) : other.Described world := by
  subst ended
  exact ⟨course.altered last course.after course.cut returned (time _) rfl fun _ => rfl,
    described.altered (fun _ run => passes run) fun _ _ _ _ run => overtakes run⟩

theorem Described.attempt {task : Task σ α} (described : task.Described world) :
    task.attempt.Described world := by
  obtain ⟨course, described⟩ := described
  cases ended : course.ending with
  | done value =>
    exact described_of_passed described ended (Ending.returned_done (.ok value)) (fun _ => rfl)
      attempt_of_done attempt_of_overtaken
  | failed error =>
    exact described_of_passed described ended (Ending.returned_done (.error error)) (fun _ => rfl)
      attempt_of_failed attempt_of_overtaken
  | overtaken depth error => exact absurd ended (course.returned depth error)
  | panicked message =>
    exact described_of_passed described ended (Ending.returned_panicked message) (fun _ => rfl)
      (fun run => by rw [Task.attempt, run]) attempt_of_overtaken
  | stuck =>
    exact described_of_passed described ended Ending.returned_stuck (fun _ => rfl)
      (fun run => by rw [Task.attempt, run]) attempt_of_overtaken

theorem Described.bind {task : Task σ α} {next : α → Task σ β} (described : task.Described world)
    (rest : ∀ value world, (next value).Described world) : (task >>= next).Described world := by
  obtain ⟨course, described⟩ := described
  cases ended : course.ending with
  | done value =>
    obtain ⟨second, behind⟩ := rest value course.after
    exact ⟨_, described.bind ended behind⟩
  | failed error =>
    exact described_of_passed described ended (Ending.returned_failed error) (fun _ => rfl)
      (fun run => bind_of_failed run next) fun run => bind_of_overtaken run next
  | overtaken depth error => exact absurd ended (course.returned depth error)
  | panicked message =>
    exact described_of_passed described ended (Ending.returned_panicked message) (fun _ => rfl)
      (fun run => by rw [bind_apply, run]) fun run => bind_of_overtaken run next
  | stuck =>
    exact described_of_passed described ended Ending.returned_stuck (fun _ => rfl)
      (fun run => by rw [bind_apply, run]) fun run => bind_of_overtaken run next

theorem Described.settle {task : Task σ α} {change : Ending α → World σ → World σ}
    (described : task.Described world) (discreet : Discreet change) :
    (task.settle change).Described world := by
  obtain ⟨course, described⟩ := described
  refine ⟨course.altered course.ending (change course.ending course.after)
    (fun instant => change (.overtaken 0 .cancelled) (course.cut instant)) course.returned ?_
    (discreet.clock _ _) fun _ => discreet.clock _ _, described.altered ?ends ?isCut⟩
  · unfold Ending.time
    rw [discreet.clock]
  case ends =>
    intro guards run
    rw [settle_of_run run, discreet.blind]
  case isCut =>
    intro guards depth instant error run
    rw [settle_of_run run, discreet.unnamed depth error 0 .cancelled, discreet.blind]

section

variable {task : Task σ α} {context : Context} {guards : List Context} {after : World σ}
  {depth : Nat} {error : Error}

theorem within_of_run {ending : Ending α} (running : context.fault? world.clock = none)
    (run : task (world.under (context :: guards)) = (ending, after.under (context :: guards))) :
    task.within context (world.under guards) =
      (ending.outside guards.length, after.under guards) := by
  have started : context.fault? (world.under guards).clock = none := running
  change task { world.under guards with
    guards := context :: (world.under guards).guards } = _ at run
  unfold within
  rw [started]
  dsimp only
  rw [run]
  cases ending with
  | overtaken depth error =>
    by_cases own : depth = guards.length
    · rw [Ending.outside, if_pos own]
      exact if_pos own
    · rw [Ending.outside, if_neg own]
      exact if_neg own
  | _ => rfl

theorem within_of_returned {ending : Ending α} (running : context.fault? world.clock = none)
    (returned : ending.Returned)
    (run : task (world.under (context :: guards)) = (ending, after.under (context :: guards))) :
    task.within context (world.under guards) = (ending, after.under guards) := by
  rw [within_of_run running run, Ending.outside_of_returned returned]

theorem within_of_fired (running : context.fault? world.clock = none)
    (run : task (world.under (context :: guards)) =
      (.overtaken guards.length error, after.under (context :: guards))) :
    task.within context (world.under guards) = (.failed error, after.under guards) := by
  rw [within_of_run running run, Ending.outside, if_pos rfl]

theorem within_of_overtaken (running : context.fault? world.clock = none)
    (further : depth ≠ guards.length)
    (run : task (world.under (context :: guards)) =
      (.overtaken depth error, after.under (context :: guards))) :
    task.within context (world.under guards) = (.overtaken depth error, after.under guards) := by
  rw [within_of_run running run, Ending.outside, if_neg further]

theorem within_of_fault (fault : context.fault? world.clock = some error) :
    task.within context world = (.failed error, world) := by
  unfold within
  rw [fault]

end

theorem depth_ne_of_overtaking {guards : List Context}
    (overtaking : (world.under guards).overtaking? = some (depth, instant, error)) :
    depth ≠ guards.length :=
  Nat.ne_of_lt (guarded_of_overtaking overtaking).depth_lt

/-- A call that ends before its context fires has under it the course that it has without. -/
theorem describes_within_of_early {course : Course σ α world} {task : Task σ α} {context : Context}
    (described : course.Describes task) (running : context.fault? world.clock = none)
    (early : course.inTime (context.firingTime world.clock)) :
    course.Describes (task.within context) := by
  refine ⟨fun guards inTime => ?ends, fun guards depth instant error outer late => ?isCut⟩
  case ends =>
    -- the first to fire is the own context or the first of those around, and neither comes too soon
    refine within_of_returned running course.returned (described.ends _ ?_)
    rcases world.overtaking?_cons context guards with ⟨instant, error, fires, _, first⟩ | ⟨_, first⟩
    · rw [World.limit_of_overtaking first]
      rwa [Context.firingTime, fires] at early
    · rwa [World.limit, first]
  case isCut =>
    rcases world.overtaking?_cons context guards with ⟨own, _, fires, sooner, _⟩ | ⟨_, first⟩
    · rw [World.limit_of_overtaking outer] at sooner
      rw [Context.firingTime, fires] at early
      exact absurd (course.mono sooner.le early) late
    · exact within_of_overtaken running (depth_ne_of_overtaking outer)
        (described.isCut _ _ _ _ (first.trans outer) late)

/-- A call that does not end before its context fires is ended then by the context. -/
theorem describes_within_of_late {course : Course σ α world} {task : Task σ α} {context : Context}
    {instant : Instant} {error : Error} (described : course.Describes task)
    (running : context.fault? world.clock = none)
    (fires : context.firing? world.clock = some (instant, error))
    (late : ¬ course.inTime (WithTop.some instant)) :
    (course.endedAt instant error).Describes (task.within context) := by
  refine ⟨fun guards sooner => ?ends, fun guards depth other outerError outer notSooner => ?isCut⟩
  case ends =>
    rcases world.overtaking?_cons context guards with ⟨own, _, same, _, first⟩ | ⟨later, _⟩
    · rw [fires] at same
      obtain ⟨rfl, rfl⟩ := Prod.mk.inj (Option.some.inj same)
      exact within_of_fired running (described.isCut _ _ _ _ first late)
    · rw [Context.firingTime, fires] at later
      exact absurd later (not_le_of_gt sooner)
  case isCut =>
    rcases world.overtaking?_cons context guards with ⟨own, _, same, sooner, _⟩ | ⟨_, first⟩
    · rw [fires] at same
      obtain ⟨rfl, rfl⟩ := Prod.mk.inj (Option.some.inj same)
      rw [World.limit_of_overtaking outer] at sooner
      exact absurd sooner notSooner
    · exact within_of_overtaken running (depth_ne_of_overtaking outer)
        (described.isCut _ _ _ _ (first.trans outer)
          fun inTime => late (course.mono (not_lt.mp notSooner) inTime))

/-- Under a context a call is not started, ends as it does, or is ended by the context. -/
theorem Described.within {task : Task σ α} (described : task.Described world) (context : Context) :
    (task.within context).Described world := by
  obtain ⟨course, described⟩ := described
  cases fault : context.fault? world.clock with
  | some error =>
    refine ⟨Course.ofPrompt (prompt_fail error) world, fun guards _ => ?_,
      fun _ _ _ _ _ late => absurd trivial late⟩
    have faulty : context.fault? (world.under guards).clock = some error := fault
    exact within_of_fault faulty
  | none =>
    by_cases early : course.inTime (context.firingTime world.clock)
    · exact ⟨course, describes_within_of_early described fault early⟩
    · cases fires : context.firing? world.clock with
      | none =>
        rw [Context.firingTime, fires] at early
        exact absurd course.unlimited early
      | some fired =>
        rw [Context.firingTime, fires] at early
        exact ⟨_, describes_within_of_late described fault fires early⟩

/-- Every call made of prompt steps and of waiting has a course, in every world. -/
theorem Timed.described {task : Task σ α} (timed : task.Timed) (world : World σ) :
    task.Described world := by
  -- on how the call is made; the second of two calls starts in the world that the first leaves
  induction timed generalizing world with
  | prompt prompt => exact ⟨_, Course.describes_ofPrompt prompt world⟩
  | waitUntil target? => exact ⟨_, Course.describes_wait target? world⟩
  | bind first rest firstIh restIh => exact (firstIh world).bind restIh
  | attempt inner ih => exact (ih world).attempt
  | settle inner discreet ih => exact (ih world).settle discreet
  | within inner context ih => exact (ih world).within context

end Task
end FluentSql
