import FluentSql.Cache
import FluentSql.Connection
import FluentSql.Context
import FluentSql.Log

/-! Calls that take time. A call runs from one state of the world to another, and the contexts
around it may end it wherever it waits. -/
namespace FluentSql

structure World (σ : Type) where
  clock : Clock
  /-- The contexts of the calls around, innermost first. -/
  guards : List Context
  /-- Transactions that are neither committed nor rolled back. -/
  sessions : List SessionId
  cache : Cache
  log : List LogEvent
  backend : σ

namespace World

def start (backend : σ) : World σ := ⟨.start, [], [], .empty, [], backend⟩

/-- The first guard that fires: how many guards are around it, when, and with which error. Of those
that fire together the outermost is first. -/
def overtaking? (world : World σ) : Option (Nat × Instant × Error) :=
  go world.guards
where
  go : List Context → Option (Nat × Instant × Error)
    | [] => none
    | guard :: outer =>
      match guard.firing? world.clock, go outer with
      | none, first => first
      | some (instant, error), none => some (outer.length, instant, error)
      | some (instant, error), some first =>
        if instant < first.2.1 then some (outer.length, instant, error) else some first

def advance (world : World σ) (instant : Instant) : World σ :=
  { world with clock := world.clock.advance instant }

end World

/-- How a call ends. -/
inductive Ending (α : Type) where
  | done (value : α)
  | failed (error : Error)
  /-- A context has fired that has so many contexts around it. -/
  | overtaken (depth : Nat) (error : Error)
  | panicked (message : String)
  /-- It waits for what never happens. -/
  | stuck

namespace Ending

def isDone : Ending α → Bool
  | .done _ => true
  | _ => false

end Ending

/-- A call on a world with a backend in state `σ`. -/
def Task (σ α : Type) := World σ → Ending α × World σ

namespace Task

def run (task : Task σ α) (world : World σ) : Ending α × World σ := task world

instance : Monad (Task σ) where
  pure value := fun world => (.done value, world)
  bind task next := fun world =>
    match task world with
    | (.done value, after) => next value after
    | (.failed error, after) => (.failed error, after)
    | (.overtaken depth error, after) => (.overtaken depth error, after)
    | (.panicked message, after) => (.panicked message, after)
    | (.stuck, after) => (.stuck, after)

def fail (error : Error) : Task σ α := fun world => (.failed error, world)

def panic (message : String) : Task σ α := fun world => (.panicked message, world)

def ofExcept : Except Error α → Task σ α
  | .ok value => pure value
  | .error error => fail error

/-- What was read off rows. -/
def ofRow : Except Halt α → Task σ α
  | .ok value => pure value
  | .error (.failed error) => fail error
  | .error halt => panic halt.message

def modify (change : World σ → World σ) : Task σ Unit := fun world => (.done (), change world)

def read (part : World σ → α) : Task σ α := fun world => (.done (part world), world)

/-- Look at the state of the backend and change it. -/
def onBackend (step : σ → α × σ) : Task σ α := fun world =>
  let (value, backend) := step world.backend
  (.done value, { world with backend := backend })

def report (event : LogEvent) : Task σ Unit :=
  modify fun world => { world with log := world.log ++ [event] }

/-- An error as a value; every other ending stays as it is. -/
def attempt (task : Task σ α) : Task σ (Except Error α) := fun world =>
  match task world with
  | (.done value, after) => (.done (.ok value), after)
  | (.failed error, after) => (.done (.error error), after)
  | (.overtaken depth error, after) => (.overtaken depth error, after)
  | (.panicked message, after) => (.panicked message, after)
  | (.stuck, after) => (.stuck, after)

/-- Change the world once a call has ended, however it has. -/
def settle (task : Task σ α) (change : Ending α → World σ → World σ) : Task σ α := fun world =>
  let (ending, after) := task world
  (ending, change ending after)

/-- Wait until a time, or for ever. A context that fires before ends the call there. What is due
already does not wait. -/
def waitUntil (target? : Option Instant) : Task σ Unit := fun world =>
  match target?, world.overtaking? with
  | some target, some (depth, instant, error) =>
    if target ≤ world.clock.now ∨ target ≤ instant then (.done (), world.advance target)
    else (.overtaken depth error, world.advance instant)
  | some target, none => (.done (), world.advance target)
  | none, some (depth, instant, error) => (.overtaken depth error, world.advance instant)
  | none, none => (.stuck, world)

def wait (span : Duration) : Task σ Unit := fun world =>
  waitUntil (some (world.clock.now + span.nanoseconds)) world

/-- Run a call under a context. A context that has fired already does not start it; one that fires
while the call waits ends it with the error of the context. -/
def within (context : Context) (task : Task σ α) : Task σ α := fun world =>
  match context.fault? world.clock with
  | some error => (.failed error, world)
  | none =>
    let (ending, after) := task { world with guards := context :: world.guards }
    let after := { after with guards := world.guards }
    match ending with
    | .overtaken depth error =>
      if depth = world.guards.length then (.failed error, after)
      else (.overtaken depth error, after)
    | other => (other, after)

end Task
end FluentSql
