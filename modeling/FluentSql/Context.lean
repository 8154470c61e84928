import FluentSql.Error

/-! The deadline and the cancellation signal that are carried into a call. -/
namespace FluentSql

/-- Nanoseconds since the clock was started. -/
abbrev Instant := Nat

abbrev SignalId := Nat

/-- What ends the wait for a cancellation. -/
inductive Notice where
  | cancelled
  /-- The last canceller is gone, and none has cancelled. -/
  | abandoned
  deriving DecidableEq

/-- A cancellation signal: when it is set, if it is, and when its last canceller is gone. Only a
canceller sets it. -/
structure Signal where
  set? : Option Instant
  closed? : Option Instant
  ordered : ∀ set ∈ set?, ∀ closed ∈ closed?, set ≤ closed
  deriving DecidableEq

namespace Signal

/-- A signal that is not set yet, with a canceller. -/
def fresh : Signal := ⟨none, none, nofun⟩

/-- Set it at a time, unless it is set before or no canceller is left. -/
def setAt (signal : Signal) (instant : Instant) : Signal :=
  if signal.closed?.isSome then signal
  else ⟨some (signal.set?.elim instant (min instant)), none, nofun⟩

/-- Its last canceller is gone at a time. What is set for later has a canceller until then. -/
def closeAt (signal : Signal) (instant : Instant) : Signal :=
  if signal.closed?.isSome then signal
  else ⟨signal.set?, some (signal.set?.elim instant (max instant)), by
    intro set isSet closed isClosed
    rw [Option.mem_def] at isSet isClosed
    rw [isSet, Option.elim_some, Option.some.injEq] at isClosed
    exact isClosed ▸ Nat.le_max_right instant set⟩

/-- What a wait for the signal ends with, and when. -/
def notice? (signal : Signal) : Option (Instant × Notice) :=
  match signal.set?, signal.closed? with
  | some set, some closed =>
    if set ≤ closed then some (set, .cancelled) else some (closed, .abandoned)
  | some set, none => some (set, .cancelled)
  | none, some closed => some (closed, .abandoned)
  | none, none => none

/-- When the signal fires. One without cancellers does not. -/
def firing? (signal : Signal) : Option Instant :=
  match signal.notice? with
  | some (instant, .cancelled) => some instant
  | _ => none

/-- It fires when it is set, and at no other time. -/
theorem firing?_eq_set? (signal : Signal) : signal.firing? = signal.set? := by
  obtain ⟨set?, closed?, ordered⟩ := signal
  cases set? with
  | none => cases closed? <;> rfl
  | some set =>
    cases closed? with
    | none => rfl
    | some closed => simp [firing?, notice?, ordered set rfl closed rfl]

def isSet (signal : Signal) (now : Instant) : Bool :=
  signal.set?.any fun instant => instant ≤ now

end Signal

/-- The clock, and all cancellation signals. -/
structure Clock where
  now : Instant
  signals : List Signal
  deriving DecidableEq, Inhabited

namespace Clock

def start : Clock := ⟨0, []⟩

def firing? (clock : Clock) (signal : SignalId) : Option Instant :=
  clock.signals[signal]?.bind Signal.firing?

def hasFired (clock : Clock) (signal : SignalId) : Bool :=
  clock.signals[signal]?.any fun held => held.isSet clock.now

/-- A signal that does not fire yet. -/
def addSignal (clock : Clock) : SignalId × Clock :=
  (clock.signals.length, { clock with signals := clock.signals ++ [.fresh] })

/-- Let a signal fire at a time, unless it fires before. -/
def fireAt (clock : Clock) (signal : SignalId) (instant : Instant) : Clock :=
  { clock with signals := clock.signals.modify signal fun held => held.setAt instant }

def cancel (clock : Clock) (signal : SignalId) : Clock := clock.fireAt signal clock.now

/-- Close the signals that have no canceller any more. -/
def closeUnless (clock : Clock) (isHeld : SignalId → Bool) : Clock :=
  let settled (signal : SignalId) (held : Signal) : Signal :=
    if isHeld signal then held else held.closeAt clock.now
  { clock with signals := clock.signals.mapIdx settled }

/-- The clock never runs backward. -/
def advance (clock : Clock) (instant : Instant) : Clock :=
  { clock with now := max clock.now instant }

end Clock

/-- When a call has to be done, and the budget that is reported when it is not. -/
structure Deadline where
  instant : Instant
  budget : Duration
  deriving DecidableEq

/-- What a context is limited by: a span from now on, or a time. -/
inductive Limit where
  | timeout (budget : Duration)
  | deadlineAt (instant : Instant)
  deriving DecidableEq

structure Context where
  deadline? : Option Deadline
  signal? : Option SignalId
  deriving DecidableEq

namespace Context

/-- No deadline and no signal. -/
def background : Context := ⟨none, none⟩

def ofSignal (signal : SignalId) : Context := ⟨none, some signal⟩

/-- The earlier deadline stays, of equal ones the first. -/
def tighten (context : Context) (deadline : Deadline) : Context :=
  match context.deadline? with
  | some current =>
    if current.instant ≤ deadline.instant then context
    else { context with deadline? := some deadline }
  | none => { context with deadline? := some deadline }

def timeout (context : Context) (now : Instant) (budget : Duration) : Context :=
  context.tighten ⟨now + budget.nanoseconds, budget⟩

/-- The budget of a deadline in the past is nothing. -/
def deadlineAt (context : Context) (now instant : Instant) : Context :=
  context.tighten ⟨instant, ⟨instant - now⟩⟩

def limit (context : Context) (now : Instant) : Limit → Context
  | .timeout budget => context.timeout now budget
  | .deadlineAt instant => context.deadlineAt now instant

/-- Limits one after another, each at its time. -/
def limited (context : Context) (limits : List (Instant × Limit)) : Context :=
  limits.foldl (fun context step => context.limit step.1 step.2) context

def isCancelled (context : Context) (clock : Clock) : Bool :=
  context.signal?.any clock.hasFired

/-- The error that a context has from the start: a signal that has fired, or else a deadline that is
over. -/
def fault? (context : Context) (clock : Clock) : Option Error :=
  if context.isCancelled clock then some .cancelled
  else match context.deadline? with
    | some deadline =>
      if deadline.instant ≤ clock.now then some (.timeout deadline.budget) else none
    | none => none

/-- Time left, nothing when the deadline is over. -/
def left? (context : Context) (clock : Clock) : Option Duration :=
  context.deadline?.map fun deadline => ⟨deadline.instant - clock.now⟩

/-- When the context ends a call that is still running, and with which error. -/
def firing? (context : Context) (clock : Clock) : Option (Instant × Error) :=
  let cancelled? := context.signal?.bind clock.firing?
  match cancelled?, context.deadline? with
  | some instant, some deadline =>
    if instant ≤ deadline.instant then some (instant, .cancelled)
    else some (deadline.instant, .timeout deadline.budget)
  | some instant, none => some (instant, .cancelled)
  | none, some deadline => some (deadline.instant, .timeout deadline.budget)
  | none, none => none

end Context
end FluentSql
