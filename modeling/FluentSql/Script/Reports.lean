import FluentSql.Error
import FluentSql.Log
import FluentSql.Row.Basic
import FluentSql.Script.Reader

/-! Errors and log events as JSON. -/
namespace FluentSql.Script

def kindName : Error → String
  | .config _ => "Config"
  | .connection _ => "Connection"
  | .query _ => "Query"
  | .backend _ => "Backend"
  | .notFound _ => "NotFound"
  | .decode _ _ => "Decode"
  | .validation _ => "Validation"
  | .noExecutor _ => "NoExecutor"
  | .unsupported _ _ => "Unsupported"
  | .serialization _ => "Serialization"
  | .pool _ => "Pool"
  | .timeout _ => "Timeout"
  | .cancelled => "Cancelled"
  | .other _ => "Other"

def errorMembers (error : Error) : List (String × Json) :=
  let base := [("error", Json.string (kindName error))]
  match error with
  | .serialization _ => base
  | .query _ => base ++ [("message", .string error.message),
      ("sqlstate", optional .string error.sqlstate?),
      ("violation", .array [.bool error.isUniqueViolation, .bool error.isForeignKeyViolation,
        .bool error.isCheckViolation])]
  | _ => base ++ [("message", .string error.message)]

def errorJson (error : Error) : Json := object (errorMembers error)

def resultJson (encode : α → Json) : Except Error α → Json
  | .ok content => encode content
  | .error error => errorJson error

def panicJson : Json := object [("error", .string "panic")]

def haltJson : Halt → Json
  | .failed error => errorJson error
  | .outOfBounds _ _ => panicJson

/-- What was read off a row. -/
def readoutJson (encode : α → Json) : Except Halt α → Json
  | .ok content => encode content
  | .error halt => haltJson halt

def logFields : LogEvent → List (String × Json)
  | .executed executor sql args ok =>
    [("executor", .string executor.name), ("args", natural args), ("ok", .bool ok),
      ("sql", optional .string (Log.shown? sql))]
  | .transactionDropped dialect => [("dialect", .string dialect)]
  | .rollbackFailed error => [("error", .string error)]
  | .idsSynthesized dialect table rows =>
    [("dialect", .string dialect), ("table", .string table), ("rows", natural rows)]
  | .connectionDetached => []
  | .optionSkipped skipped =>
    [("dialect", .string skipped.dialect), ("what", .string skipped.option),
      ("detail", .string skipped.detail)]

def logJson (event : LogEvent) : Json :=
  object [("level", .string event.level.name), ("target", .string event.target),
    ("fields", object (("message", .string event.message) :: logFields event))]

end FluentSql.Script
