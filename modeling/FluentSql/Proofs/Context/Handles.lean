import Mathlib.Data.List.Induction
import Mathlib.Order.WithBot
import FluentSql.Handles
import FluentSql.Proofs.Context.Limits

/-! What cancellers do to contexts. A signal fires exactly when a canceller of it is asked to
cancel; to drop cancellers, even all of them, fires nothing. -/
namespace FluentSql

namespace Signal

/-- It can still be set. -/
def IsOpen (signal : Signal) : Prop := signal.closed? = none

theorem isOpen_fresh : fresh.IsOpen := rfl

theorem IsOpen.setAt {signal : Signal} (isOpen : signal.IsOpen) (instant : Instant) :
    (signal.setAt instant).IsOpen := by
  simp [Signal.setAt, IsOpen, show signal.closed? = none from isOpen]

theorem set?_closeAt (signal : Signal) (instant : Instant) :
    (signal.closeAt instant).set? = signal.set? := by
  unfold closeAt
  split <;> rfl

/-- It is set by a time: at that time or before. -/
def SetBy (signal : Signal) (time : Instant) : Prop := ∃ instant ∈ signal.set?, instant ≤ time

theorem not_setBy_fresh (time : Instant) : ¬ fresh.SetBy time := nofun

theorem setBy_setAt_iff {signal : Signal} (isOpen : signal.IsOpen) (instant time : Instant) :
    (signal.setAt instant).SetBy time ↔ signal.SetBy time ∨ instant ≤ time := by
  obtain ⟨set?, closed?, ordered⟩ := signal
  obtain rfl : closed? = none := isOpen
  cases set? with
  | none => simp [Signal.setAt, SetBy]
  | some set =>
    simp [Signal.setAt, SetBy, or_comm]

end Signal

namespace Clock

/-- A signal fires at a time or before. -/
def FiresBy (clock : Clock) (signal : SignalId) (time : Instant) : Prop :=
  ∃ instant, clock.firing? signal = some instant ∧ instant ≤ time

theorem firesBy_iff (clock : Clock) (signal : SignalId) (time : Instant) :
    clock.FiresBy signal time ↔ ∃ held ∈ clock.signals[signal]?, held.SetBy time := by
  unfold FiresBy firing?
  cases clock.signals[signal]? with
  | none => simp
  | some held => simp [Signal.firing?_eq_set?, Signal.SetBy]

theorem hasFired_iff (clock : Clock) (signal : SignalId) :
    clock.hasFired signal = true ↔ clock.FiresBy signal clock.now := by
  rw [firesBy_iff, hasFired, Option.any_eq_true]
  simp [Signal.isSet, Signal.SetBy, Option.any_eq_true]

/-- A signal that some canceller can still set. -/
def IsOpen (clock : Clock) (signal : SignalId) : Prop :=
  ∃ held ∈ clock.signals[signal]?, held.IsOpen

theorem IsOpen.lt {clock : Clock} {signal : SignalId} (isOpen : clock.IsOpen signal) :
    signal < clock.signals.length := by
  obtain ⟨held, found, _⟩ := isOpen
  exact (List.getElem?_eq_some_iff.mp found).1

theorem getElem?_addSignal (clock : Clock) (signal : SignalId) :
    clock.addSignal.2.signals[signal]? =
      if signal = clock.signals.length then some .fresh else clock.signals[signal]? := by
  unfold addSignal
  split
  · rename_i added
    simp [added]
  · rename_i other
    rcases Nat.lt_or_gt_of_ne other with before | behind
    · simp [List.getElem?_append_left before]
    · rw [List.getElem?_eq_none (by simp; omega), List.getElem?_eq_none (by omega)]

theorem getElem?_fireAt (clock : Clock) (fired signal : SignalId) (instant : Instant) :
    (clock.fireAt fired instant).signals[signal]? =
      if fired = signal then clock.signals[signal]?.map fun held => held.setAt instant
      else clock.signals[signal]? := by
  rw [fireAt, List.getElem?_modify]
  split
  · rfl
  · simp

theorem getElem?_closeUnless (clock : Clock) (isHeld : SignalId → Bool) (signal : SignalId) :
    (clock.closeUnless isHeld).signals[signal]? =
      clock.signals[signal]?.map fun held =>
        if isHeld signal then held else held.closeAt clock.now := by
  simp [closeUnless, List.getElem?_mapIdx]

theorem firesBy_addSignal_iff (clock : Clock) (signal : SignalId) (time : Instant) :
    clock.addSignal.2.FiresBy signal time ↔ clock.FiresBy signal time := by
  rw [firesBy_iff, firesBy_iff, getElem?_addSignal]
  split
  · rename_i added
    rw [added]
    simp [Signal.not_setBy_fresh]
  · rfl

theorem firesBy_closeUnless_iff (clock : Clock) (isHeld : SignalId → Bool) (signal : SignalId)
    (time : Instant) :
    (clock.closeUnless isHeld).FiresBy signal time ↔ clock.FiresBy signal time := by
  rw [firesBy_iff, firesBy_iff, getElem?_closeUnless]
  cases clock.signals[signal]? with
  | none => simp
  | some held => cases isHeld signal <;> simp [Signal.SetBy, Signal.set?_closeAt]

/-- An open signal that is to fire at a time fires then or before; another fires as it did. -/
theorem firesBy_fireAt_iff {clock : Clock} {fired : SignalId} (isOpen : clock.IsOpen fired)
    (instant : Instant) (signal : SignalId) (time : Instant) :
    (clock.fireAt fired instant).FiresBy signal time ↔
      clock.FiresBy signal time ∨ (fired = signal ∧ instant ≤ time) := by
  obtain ⟨held, found, open'⟩ := isOpen
  rw [firesBy_iff, firesBy_iff, getElem?_fireAt]
  by_cases same : fired = signal
  · subst same
    rw [Option.mem_def] at found
    simp [found, Signal.setBy_setAt_iff open']
  · simp [same]

theorem isOpen_added (clock : Clock) : clock.addSignal.2.IsOpen clock.signals.length :=
  ⟨.fresh, by rw [getElem?_addSignal, if_pos rfl]; rfl, Signal.isOpen_fresh⟩

theorem IsOpen.addSignal {clock : Clock} {signal : SignalId} (isOpen : clock.IsOpen signal) :
    clock.addSignal.2.IsOpen signal := by
  have before := isOpen.lt
  obtain ⟨held, found, isOpen⟩ := isOpen
  exact ⟨held, by rw [getElem?_addSignal, if_neg (Nat.ne_of_lt before)]; exact found, isOpen⟩

theorem IsOpen.fireAt {clock : Clock} {signal : SignalId} (isOpen : clock.IsOpen signal)
    (fired : SignalId) (instant : Instant) : (clock.fireAt fired instant).IsOpen signal := by
  obtain ⟨held, found, isOpen⟩ := isOpen
  rw [Option.mem_def] at found
  rw [IsOpen, getElem?_fireAt, found]
  split
  · exact ⟨_, rfl, isOpen.setAt instant⟩
  · exact ⟨held, rfl, isOpen⟩

theorem IsOpen.closeUnless {clock : Clock} {signal : SignalId} (isOpen : clock.IsOpen signal)
    {isHeld : SignalId → Bool} (held : isHeld signal = true) :
    (clock.closeUnless isHeld).IsOpen signal := by
  obtain ⟨present, found, isOpen⟩ := isOpen
  rw [Option.mem_def] at found
  exact ⟨present, by rw [getElem?_closeUnless, found, held]; rfl, isOpen⟩

theorem length_addSignal (clock : Clock) :
    clock.addSignal.2.signals.length = clock.signals.length + 1 := by simp [addSignal]

theorem length_fireAt (clock : Clock) (signal : SignalId) (instant : Instant) :
    (clock.fireAt signal instant).signals.length = clock.signals.length := List.length_modify _ _ _

theorem length_closeUnless (clock : Clock) (isHeld : SignalId → Bool) :
    (clock.closeUnless isHeld).signals.length = clock.signals.length := by simp [closeUnless]

end Clock

/-- When the signal of a context fires; never without a signal. -/
def Context.cancellation (context : Context) (clock : Clock) : WithTop Instant :=
  (context.signal?.bind clock.firing?).elim ⊤ WithTop.some

theorem Context.cancellation_le_iff (context : Context) (clock : Clock) (time : Instant) :
    context.cancellation clock ≤ WithTop.some time ↔
      ∃ signal ∈ context.signal?, clock.FiresBy signal time := by
  unfold cancellation Clock.FiresBy
  cases context.signal? with
  | none => simp
  | some signal =>
    simp only [Option.bind_some, Option.mem_def, Option.some.injEq, exists_eq_left']
    cases clock.firing? signal <;> simp

theorem Context.isCancelled_iff (context : Context) (clock : Clock) :
    context.isCancelled clock = true ↔ context.cancellation clock ≤ WithTop.some clock.now := by
  rw [cancellation_le_iff]
  simp [isCancelled, Option.any_eq_true, Clock.hasFired_iff]

/-- The signal that a step lets fire, through a canceller that is held, and when. -/
def Handling.fires? (handles : Handles) : Handling → Option (SignalId × Instant)
  | .cancel name => (handles.canceller? name).map fun signal => (signal, handles.clock.now)
  | .cancelAfter name span => (handles.canceller? name).map fun signal =>
    (signal, handles.clock.now + span.nanoseconds)
  | _ => none

namespace Handles

/-- A signal that has been made. -/
def Knows (handles : Handles) (signal : SignalId) : Prop := signal < handles.clock.signals.length

/-- What is held belongs to signals that exist, and a canceller to one that it can set. -/
structure Sound (handles : Handles) : Prop where
  context : ∀ {name held}, handles.context? name = some held →
    ∀ signal ∈ held.signal?, handles.Knows signal
  canceller : ∀ {name signal}, handles.canceller? name = some signal → handles.clock.IsOpen signal

theorem sound_start : start.Sound := ⟨nofun, nofun⟩

theorem context?_putContext (handles : Handles) (name other : String) (context : Context) :
    (handles.putContext name context).context? other =
      if other = name then some context else handles.context? other :=
  Entries.find?_insert name other context handles.contexts

theorem canceller?_putCanceller (handles : Handles) (name other : String) (signal : SignalId) :
    (handles.putCanceller name signal).canceller? other =
      if other = name then some signal else handles.canceller? other :=
  Entries.find?_insert name other signal handles.cancellers

theorem holds_of_canceller? {handles : Handles} {name : String} {signal : SignalId}
    (held : handles.canceller? name = some signal) : handles.holds signal = true := by
  obtain ⟨entry, found, same⟩ := Option.map_eq_some_iff.mp held
  rw [holds, List.any_eq_true]
  exact ⟨entry, List.mem_of_find?_eq_some found, beq_iff_eq.mpr same⟩

theorem Sound.putContext {handles : Handles} (sound : handles.Sound) {context : Context}
    (known : ∀ signal ∈ context.signal?, handles.Knows signal) (name : String) :
    (handles.putContext name context).Sound := by
  refine ⟨?_, sound.canceller⟩
  intro other held found
  rw [context?_putContext] at found
  split at found
  · cases found
    exact known
  · exact sound.context found

theorem Sound.putCanceller {handles : Handles} (sound : handles.Sound) {signal : SignalId}
    (isOpen : handles.clock.IsOpen signal) (name : String) :
    (handles.putCanceller name signal).Sound := by
  refine ⟨sound.context, ?_⟩
  intro other held found
  rw [canceller?_putCanceller] at found
  split at found
  · cases found
    exact isOpen
  · exact sound.canceller found

/-- On a clock that keeps all signals, and those open that a canceller can set, all stays sound. -/
theorem Sound.onClock {handles : Handles} (sound : handles.Sound) {clock : Clock}
    (longer : handles.clock.signals.length ≤ clock.signals.length)
    (stays : ∀ {name signal}, handles.canceller? name = some signal →
      handles.clock.IsOpen signal → clock.IsOpen signal) :
    ({ handles with clock := clock } : Handles).Sound where
  context found signal bears := Nat.lt_of_lt_of_le (sound.context found signal bears) longer
  canceller found := stays found (sound.canceller found)

theorem Sound.fireAt {handles : Handles} (sound : handles.Sound) (signal : SignalId)
    (instant : Instant) :
    ({ handles with clock := handles.clock.fireAt signal instant } : Handles).Sound :=
  sound.onClock (Nat.le_of_eq (Clock.length_fireAt _ _ _).symm)
    fun _ isOpen => isOpen.fireAt signal instant

theorem sound_withCancel {handles : Handles} (sound : handles.Sound) (name : String) :
    (handles.withCancel name).Sound := by
  have clocked : ({ handles with clock := handles.clock.addSignal.2 } : Handles).Sound :=
    sound.onClock (by rw [Clock.length_addSignal]; exact Nat.le_succ _)
      fun _ isOpen => isOpen.addSignal
  have known : ∀ signal ∈ (Context.ofSignal handles.clock.signals.length).signal?,
      ({ handles with clock := handles.clock.addSignal.2 } : Handles).Knows signal := by
    intro signal bears
    cases bears
    rw [Knows, Clock.length_addSignal]
    exact Nat.lt_succ_self _
  exact (clocked.putContext known name).putCanceller handles.clock.isOpen_added name

theorem Sound.change {handles : Handles} (sound : handles.Sound) (handling : Handling) :
    (handles.change handling).Sound := by
  cases handling with
  | background name => exact sound.putContext (fun _ bears => by cases bears) name
  | withCancel name => exact sound_withCancel sound name
  | cloneContext origin name =>
    rw [Handles.change]
    cases held : handles.context? origin with
    | none => exact sound
    | some context => exact sound.putContext (sound.context held) name
  | limit name limit =>
    rw [Handles.change]
    cases held : handles.context? name with
    | none => exact sound
    | some context =>
      refine sound.putContext ?_ name
      rw [Context.limit_signal?]
      exact sound.context held
  | cloneCanceller origin name =>
    rw [Handles.change]
    cases held : handles.canceller? origin with
    | none => exact sound
    | some signal => exact sound.putCanceller (sound.canceller held) name
  | cancel name =>
    rw [Handles.change]
    cases handles.canceller? name with
    | none => exact sound
    | some signal => exact sound.fireAt signal handles.clock.now
  | cancelAfter name span =>
    rw [Handles.change]
    cases handles.canceller? name with
    | none => exact sound
    | some signal => exact sound.fireAt signal _
  | dropContext name =>
    exact ⟨fun found => sound.context (Entries.find?_of_filter found), sound.canceller⟩
  | dropCanceller name =>
    exact ⟨sound.context, fun found => sound.canceller (Entries.find?_of_filter found)⟩
  | advance instant => exact sound.onClock (Nat.le_refl _) fun _ isOpen => isOpen

theorem Sound.step {handles : Handles} (sound : handles.Sound) (handling : Handling) :
    (handles.step handling).Sound :=
  (sound.change handling).onClock (Nat.le_of_eq (Clock.length_closeUnless _ _).symm)
    fun held isOpen => isOpen.closeUnless (holds_of_canceller? held)

theorem sound_run (steps : List Handling) : (start.run steps).Sound := by
  induction steps using List.reverseRecOn with
  | nil => exact sound_start
  | append_singleton steps step ih =>
    rw [run, List.foldl_append]
    exact ih.step step

/-- A step lets a signal fire when it asks so through a canceller; else all fire as they did. -/
theorem firesBy_change_iff {handles : Handles} (sound : handles.Sound) (handling : Handling)
    (signal : SignalId) (time : Instant) :
    (handles.change handling).clock.FiresBy signal time ↔
      handles.clock.FiresBy signal time ∨
        ∃ instant, handling.fires? handles = some (signal, instant) ∧ instant ≤ time := by
  cases handling with
  | withCancel name =>
    refine (Clock.firesBy_addSignal_iff _ _ _).trans ?_
    simp [Handling.fires?]
  | cloneContext origin name =>
    rw [change]
    cases handles.context? origin <;> simp [Handling.fires?, Handles.putContext]
  | limit name limit =>
    rw [change]
    cases handles.context? name <;> simp [Handling.fires?, Handles.putContext]
  | cloneCanceller origin name =>
    rw [change]
    cases handles.canceller? origin <;> simp [Handling.fires?, Handles.putCanceller]
  | cancel name =>
    rw [change, Handling.fires?]
    cases held : handles.canceller? name with
    | none => simp
    | some fired =>
      rw [Option.elim_some, Clock.cancel, Clock.firesBy_fireAt_iff (sound.canceller held)]
      simp [and_assoc]
  | cancelAfter name span =>
    rw [change, Handling.fires?]
    cases held : handles.canceller? name with
    | none => simp
    | some fired =>
      rw [Option.elim_some, Clock.firesBy_fireAt_iff (sound.canceller held)]
      simp [and_assoc]
  | _ =>
    simp [change, Handling.fires?, Handles.putContext, Clock.FiresBy, Clock.firing?, Clock.advance]

theorem firesBy_step_iff {handles : Handles} (sound : handles.Sound) (handling : Handling)
    (signal : SignalId) (time : Instant) :
    (handles.step handling).clock.FiresBy signal time ↔
      handles.clock.FiresBy signal time ∨
        ∃ instant, handling.fires? handles = some (signal, instant) ∧ instant ≤ time :=
  (Clock.firesBy_closeUnless_iff _ _ _ _).trans (firesBy_change_iff sound handling signal time)

@[simp]
theorem run_append_singleton (handles : Handles) (steps : List Handling) (last : Handling) :
    handles.run (steps ++ [last]) = (handles.run steps).step last := by
  simp [run, List.foldl_append]

/-- Some step asks a signal to fire at a time, through a canceller that is held then. -/
def Asked (steps : List Handling) (signal : SignalId) (instant : Instant) : Prop :=
  ∃ before handling after, steps = before ++ handling :: after ∧
    handling.fires? (start.run before) = some (signal, instant)

theorem not_asked_nil (signal : SignalId) (instant : Instant) : ¬ Asked [] signal instant := by
  rintro ⟨before, handling, after, split, _⟩
  simp at split

theorem asked_append_singleton_iff (steps : List Handling) (last : Handling) (signal : SignalId)
    (instant : Instant) :
    Asked (steps ++ [last]) signal instant ↔
      Asked steps signal instant ∨ last.fires? (start.run steps) = some (signal, instant) := by
  constructor
  · rintro ⟨before, handling, after, split, asked⟩
    rcases List.eq_nil_or_concat after with rfl | ⟨rest, final, rfl⟩
    · obtain ⟨rfl, same⟩ := List.append_inj' split rfl
      cases same
      exact .inr asked
    · rw [List.concat_eq_append, ← List.cons_append, ← List.append_assoc] at split
      obtain ⟨rfl, _⟩ := List.append_inj' split rfl
      exact .inl ⟨before, handling, rest, rfl, asked⟩
  · rintro (⟨before, handling, after, rfl, asked⟩ | asked)
    · exact ⟨before, handling, after ++ [last], by simp, asked⟩
    · exact ⟨steps, last, [], rfl, asked⟩

/-- A signal fires by a time if a cancellation was asked for that is due by then, and not else. -/
theorem firesBy_run_iff (steps : List Handling) (signal : SignalId) (time : Instant) :
    (start.run steps).clock.FiresBy signal time ↔ ∃ instant ≤ time, Asked steps signal instant := by
  -- from the end, so that the last step sees what all others have left
  induction steps using List.reverseRecOn with
  | nil => simp [not_asked_nil, run, start, Clock.start, Clock.firesBy_iff]
  | append_singleton steps last ih =>
    rw [run_append_singleton, firesBy_step_iff (sound_run steps), ih]
    simp only [asked_append_singleton_iff, and_or_left, exists_or]
    exact or_congr_right (exists_congr fun instant => and_comm)

theorem now_le_step (handles : Handles) (handling : Handling) :
    handles.clock.now ≤ (handles.step handling).clock.now := by
  change handles.clock.now ≤ (handles.change handling).clock.now
  cases handling with
  | advance instant => exact Nat.le_max_left _ _
  | cloneContext origin name => rw [change]; cases handles.context? origin <;> exact Nat.le_refl _
  | limit name limit => rw [change]; cases handles.context? name <;> exact Nat.le_refl _
  | cloneCanceller origin name =>
    rw [change]; cases handles.canceller? origin <;> exact Nat.le_refl _
  | cancel name => rw [change]; cases handles.canceller? name <;> exact Nat.le_refl _
  | cancelAfter name span => rw [change]; cases handles.canceller? name <;> exact Nat.le_refl _
  | _ => exact Nat.le_refl _

theorem now_le_run (handles : Handles) (steps : List Handling) :
    handles.clock.now ≤ (handles.run steps).clock.now := by
  induction steps generalizing handles with
  | nil => exact Nat.le_refl _
  | cons step rest ih => exact Nat.le_trans (handles.now_le_step step) (ih (handles.step step))

theorem run_append (handles : Handles) (early late : List Handling) :
    handles.run (early ++ late) = (handles.run early).run late := List.foldl_append

/-- A context is cancelled by a time if that was asked for, through some canceller of its signal. -/
theorem cancellation_le_iff (steps : List Handling) (context : Context) (time : Instant) :
    context.cancellation (start.run steps).clock ≤ WithTop.some time ↔
      ∃ signal ∈ context.signal?, ∃ instant ≤ time, Asked steps signal instant := by
  simp only [Context.cancellation_le_iff, firesBy_run_iff]

/-- A signal that was asked to fire is one of the clock. -/
theorem Asked.knows {steps : List Handling} {signal : SignalId} {instant : Instant}
    (asked : Asked steps signal instant) : (start.run steps).Knows signal := by
  have fires := (firesBy_run_iff steps signal instant).mpr ⟨instant, Nat.le_refl _, asked⟩
  obtain ⟨held, found, _⟩ := (Clock.firesBy_iff _ _ _).mp fires
  exact (List.getElem?_eq_some_iff.mp found).1

/-- What a program's cancellers bring about for its contexts. -/
structure Obedient (steps : List Handling) : Prop where
  /-- A context and a canceller that are made together share a signal that nothing else has. -/
  made : ∀ {before name after}, steps = before ++ .withCancel name :: after →
    ∃ signal, let together := start.run (before ++ [.withCancel name])
      together.context? name = some (.ofSignal signal) ∧ together.canceller? name = some signal ∧
        (∀ other held, (start.run before).context? other = some held →
          held.signal? ≠ some signal) ∧
        (∀ other, (start.run before).canceller? other ≠ some signal) ∧
        ∀ instant, ¬ Asked before signal instant
  cloned : ∀ {before origin name after held}, steps = before ++ .cloneContext origin name :: after →
    (start.run before).context? origin = some held →
      (start.run (before ++ [.cloneContext origin name])).context? name = some held
  derived : ∀ {before name limit after held}, steps = before ++ .limit name limit :: after →
    (start.run before).context? name = some held →
      ∃ limited, (start.run (before ++ [.limit name limit])).context? name = some limited ∧
        limited.signal? = held.signal?
  clonedCanceller : ∀ {before origin name after signal},
    steps = before ++ .cloneCanceller origin name :: after →
    (start.run before).canceller? origin = some signal →
      (start.run (before ++ [.cloneCanceller origin name])).canceller? name = some signal
  /-- To cancel by any canceller of a signal fires all contexts that have the signal. -/
  cancels : ∀ {before canceller after signal}, steps = before ++ .cancel canceller :: after →
    (start.run before).canceller? canceller = some signal →
      ∀ {context : Context}, context.signal? = some signal →
        context.isCancelled (start.run steps).clock = true
  /-- A context is cancelled by a time if that was asked for, and not else. -/
  cancelled : ∀ (context : Context) (time : Instant),
    context.cancellation (start.run steps).clock ≤ WithTop.some time ↔
      ∃ signal ∈ context.signal?, ∃ instant ≤ time, Asked steps signal instant
  /-- To drop cancellers, the last one too, cancels nothing. -/
  never : ∀ context : Context,
    (∀ signal ∈ context.signal?, ∀ instant, ¬ Asked steps signal instant) →
      context.cancellation (start.run steps).clock = ⊤

theorem obedient (steps : List Handling) : Obedient steps where
  made := by
    intro before name after _
    rw [run_append_singleton]
    refine ⟨(start.run before).clock.signals.length, ?_, ?_, ?_, ?_, ?_⟩
    · exact (context?_putContext _ name name _).trans (if_pos rfl)
    · exact (canceller?_putCanceller _ name name _).trans (if_pos rfl)
    · intro other held found same
      exact absurd ((sound_run before).context found _ same) (Nat.lt_irrefl _)
    · intro other found
      exact absurd ((sound_run before).canceller found).lt (Nat.lt_irrefl _)
    · intro instant asked
      exact absurd asked.knows (Nat.lt_irrefl _)
  cloned := by
    intro before origin name after held _ found
    rw [run_append_singleton]
    change ((start.run before).change _).context? name = _
    rw [change, found, Option.elim_some, context?_putContext, if_pos rfl]
  derived := by
    intro before name limit after held _ found
    refine ⟨held.limit (start.run before).clock.now limit, ?_, held.limit_signal? _ limit⟩
    rw [run_append_singleton]
    change ((start.run before).change _).context? name = _
    rw [change, found, Option.elim_some, context?_putContext, if_pos rfl]
  clonedCanceller := by
    intro before origin name after signal _ found
    rw [run_append_singleton]
    change ((start.run before).change _).canceller? name = _
    rw [change, found, Option.elim_some, canceller?_putCanceller, if_pos rfl]
  cancels := by
    intro before canceller after signal split found context bears
    have asked : Asked steps signal (start.run before).clock.now :=
      ⟨before, _, after, split, by rw [Handling.fires?, found]; rfl⟩
    have passed : (start.run before).clock.now ≤ (start.run steps).clock.now := by
      rw [split, run_append]
      exact now_le_run _ _
    rw [Context.isCancelled_iff, cancellation_le_iff]
    exact ⟨signal, bears, _, passed, asked⟩
  cancelled := cancellation_le_iff steps
  never := by
    intro context unasked
    rw [WithTop.eq_top_iff_forall_gt]
    intro time
    rw [← not_le, cancellation_le_iff]
    rintro ⟨signal, bears, instant, _, asked⟩
    exact unasked signal bears instant asked

end Handles
end FluentSql
