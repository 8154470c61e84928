/-! What is reported while statements run. -/
namespace FluentSql

/-- A report that an option of a definition was left out, since a backend has no words for it. -/
structure Skipped where
  dialect : String
  option : String
  detail : String
  deriving DecidableEq

/-- Where a statement ran. -/
inductive ExecutorKind where
  | pool
  | transaction
  deriving DecidableEq

def ExecutorKind.name : ExecutorKind → String
  | .pool => "pool"
  | .transaction => "transaction"

inductive LogLevel where
  | debug
  | warn
  deriving DecidableEq

def LogLevel.name : LogLevel → String
  | .debug => "DEBUG"
  | .warn => "WARN"

inductive LogEvent where
  | executed (executor : ExecutorKind) (sql : String) (args : Nat) (ok : Bool)
  | transactionDropped (dialect : String)
  | rollbackFailed (error : String)
  | idsSynthesized (dialect table : String) (rows : Nat)
  | connectionDetached
  | optionSkipped (skipped : Skipped)
  deriving DecidableEq

namespace LogEvent

def level : LogEvent → LogLevel
  | .executed _ _ _ _ => .debug
  | .connectionDetached => .debug
  | _ => .warn

def target : LogEvent → String
  | .optionSkipped _ => "dblayer.schema"
  | _ => "dblayer.sql"

def message : LogEvent → String
  | .executed _ _ _ _ => "sql executed"
  | .transactionDropped _ => "transaction dropped without commit or rollback; discarding"
  | .rollbackFailed _ => "rollback failed"
  | .idsSynthesized _ _ _ =>
    "bulk insert ids synthesized from last insert id; assumes contiguous allocation"
  | .connectionDetached => "detaching connection of unfinished transaction"
  | .optionSkipped _ => "option not supported; skipped"

end LogEvent

namespace Log

/-- The most bytes of a statement that are shown. -/
def shownBytes : Nat := 200

/-- Whether a byte position is at an end of the text or between two of its characters. -/
def isBoundary (text : String) (place : Nat) : Bool := String.Pos.Raw.isValid text ⟨place⟩

/-- The last boundary up to a byte position, looked for downward. -/
def boundaryUpTo (text : String) : Nat → Nat
  | 0 => 0
  | place + 1 => if isBoundary text (place + 1) then place + 1 else boundaryUpTo text place

/-- The text up to a byte position. Nothing can be cut off within a character. -/
def beginning? (text : String) (place : Nat) : Option String :=
  if boundary : isBoundary text place then
    some (text.sliceTo ⟨⟨place⟩, String.Pos.Raw.isValid_eq_true_iff.mp boundary⟩).copy
  else none

def truncated? (sql : String) (bytes : Nat) : Option String :=
  if sql.utf8ByteSize ≤ bytes then some sql else beginning? sql (boundaryUpTo sql bytes)

/-- A statement as it is shown, with dots in place of what was cut off. -/
def shown? (sql : String) : Option String :=
  if shownBytes < sql.utf8ByteSize then (truncated? sql shownBytes).map (· ++ "...") else some sql

end Log
end FluentSql
