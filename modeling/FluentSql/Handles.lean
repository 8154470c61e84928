import FluentSql.Context
import FluentSql.Entries

/-! The contexts and the cancellers that a program holds. All clones of a context share its signal,
and so do all clones of a canceller. -/
namespace FluentSql

/-- What is held by name, on a clock. -/
structure Handles where
  clock : Clock
  contexts : Entries Context
  cancellers : Entries SignalId

/-- What a program does with what it holds. What a name held before is dropped when it is given
anew; a step on a name that holds nothing does nothing. -/
inductive Handling where
  | background (name : String)
  /-- A context and its canceller, both by one name. -/
  | withCancel (name : String)
  | cloneContext (origin name : String)
  | limit (name : String) (limit : Limit)
  | cloneCanceller (origin name : String)
  | cancel (name : String)
  /-- Cancel later, through a clone that is held until then. -/
  | cancelAfter (name : String) (span : Duration)
  | dropContext (name : String)
  | dropCanceller (name : String)
  | advance (instant : Instant)
  deriving DecidableEq

namespace Handles

def start : Handles := ⟨.start, [], []⟩

def context? (handles : Handles) (name : String) : Option Context :=
  Entries.find? handles.contexts name

def canceller? (handles : Handles) (name : String) : Option SignalId :=
  Entries.find? handles.cancellers name

def putContext (handles : Handles) (name : String) (context : Context) : Handles :=
  { handles with contexts := Entries.insert name context handles.contexts }

def putCanceller (handles : Handles) (name : String) (signal : SignalId) : Handles :=
  { handles with cancellers := Entries.insert name signal handles.cancellers }

def withCancel (handles : Handles) (name : String) : Handles :=
  let (signal, clock) := handles.clock.addSignal
  let held : Handles := ⟨clock, handles.contexts, handles.cancellers⟩
  (held.putContext name (.ofSignal signal)).putCanceller name signal

def change (handles : Handles) : Handling → Handles
  | .background name => handles.putContext name .background
  | .withCancel name => handles.withCancel name
  | .cloneContext origin name => (handles.context? origin).elim handles (handles.putContext name)
  | .limit name limit => (handles.context? name).elim handles fun context =>
    handles.putContext name (context.limit handles.clock.now limit)
  | .cloneCanceller origin name =>
    (handles.canceller? origin).elim handles (handles.putCanceller name)
  | .cancel name => (handles.canceller? name).elim handles fun signal =>
    { handles with clock := handles.clock.cancel signal }
  | .cancelAfter name span => (handles.canceller? name).elim handles fun signal =>
    { handles with clock := handles.clock.fireAt signal (handles.clock.now + span.nanoseconds) }
  | .dropContext name =>
    { handles with contexts := handles.contexts.filter fun entry => entry.1 != name }
  | .dropCanceller name =>
    { handles with cancellers := handles.cancellers.filter fun entry => entry.1 != name }
  | .advance instant => { handles with clock := handles.clock.advance instant }

def holds (handles : Handles) (signal : SignalId) : Bool :=
  handles.cancellers.any fun entry => entry.2 == signal

/-- A signal whose last canceller is gone is closed. -/
def step (handles : Handles) (handling : Handling) : Handles :=
  let after := handles.change handling
  { after with clock := after.clock.closeUnless after.holds }

def run (handles : Handles) (steps : List Handling) : Handles := steps.foldl step handles

end Handles
end FluentSql
