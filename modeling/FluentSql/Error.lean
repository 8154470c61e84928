import FluentSql.Duration
import FluentSql.Text.Join

/-! What can go wrong, by cause, with the wording of every cause in one place. -/
namespace FluentSql

/-- Uses of a builder or of a terminal operation that are refused. -/
inductive Misuse where
  | orderDirection (direction : String)
  | lockModifier (modifier : String)
  | noTable (operation : String)
  | nothingSelected
  | emptyTable (table : String)
  | noTables (operation : String)
  | emptyRecord
  | nothingToSet (operation : String)
  | batchColumns (index : Nat) (found expected : List String)
  | noKeyColumn (key : String)
  | unboundName (name : String)
  | unguardedDelete
  | stated (message : String)
  deriving DecidableEq

def Misuse.message : Misuse → String
  | .orderDirection direction => "invalid order direction: " ++ direction
  | .lockModifier modifier => modifier ++ " requires lock_for_update or lock_for_share"
  | .noTable operation => operation ++ ": no table selected"
  | .nothingSelected => "select: no table or columns given"
  | .emptyTable table => "create table " ++ table ++ ": no columns defined"
  | .noTables operation => operation ++ ": no tables given"
  | .emptyRecord => "create: record has no columns"
  | .nothingToSet operation => operation ++ ": no columns to set"
  | .batchColumns index found expected =>
    "batch record #" ++ Text.natText index ++ " has columns [" ++ Text.commaList found ++
      "], expected [" ++ Text.commaList expected ++ "]"
  | .noKeyColumn key => "bulk update: records have no key column " ++ key
  | .unboundName name => "no value bound for named parameter :" ++ name
  | .unguardedDelete => "delete without conditions is not allowed"
  | .stated message => message

/-- Why a value or a cell does not decode. -/
inductive DecodeFault where
  | kind (expected got : String)
  | tooLarge
  | tooSmall
  | absentColumn
  | indexOutOfRange
  | invalidBoolean (shown : String)
  | unsupportedType (name : String)
  | cell (index : Nat)
  | stated (message : String)
  deriving DecidableEq

def DecodeFault.message : DecodeFault → String
  | .kind expected got => "expected " ++ expected ++ ", got " ++ got
  | .tooLarge => "number too large to fit in target type"
  | .tooSmall => "number too small to fit in target type"
  | .absentColumn => "column not present in row"
  | .indexOutOfRange => "column index out of range"
  | .invalidBoolean shown => "invalid boolean " ++ shown
  | .unsupportedType name => "unsupported column type " ++ name
  | .cell index => "error deserializing column " ++ Text.natText index
  | .stated message => message

/-- Failures of a statement on a PostgreSQL server or on the way to it. -/
inductive QueryFault where
  | server (sqlstate : String)
  | parameterCount (expected given : Nat)
  | parameter (index : Nat)
  deriving DecidableEq

def QueryFault.message : QueryFault → String
  | .server _ => "db error"
  | .parameterCount expected given =>
    "expected " ++ Text.natText expected ++ " parameters but got " ++ Text.natText given
  | .parameter index => "error serializing parameter " ++ Text.natText index

inductive Error where
  | config (message : String)
  | connection (message : String)
  | query (fault : QueryFault)
  | backend (message : String)
  | notFound (message : String)
  | decode (column : String) (fault : DecodeFault)
  | validation (misuse : Misuse)
  | noExecutor (message : String)
  | unsupported (dialect feature : String)
  | serialization (message : String)
  | pool (message : String)
  | timeout (budget : Duration)
  | cancelled
  | other (message : String)
  deriving DecidableEq

namespace Error

def message : Error → String
  | .config message => "Configuration error: " ++ message
  | .connection message => "Connection error: " ++ message
  | .query fault => "Query error: " ++ fault.message
  | .backend message => "Backend error: " ++ message
  | .notFound message => "Not found: " ++ message
  | .decode column fault => "Decode error on column '" ++ column ++ "': " ++ fault.message
  | .validation misuse => "Validation error: " ++ misuse.message
  | .noExecutor message => "No executor bound: " ++ message
  | .unsupported dialect feature => "Unsupported by " ++ dialect ++ ": " ++ feature
  | .serialization message => "Serialization error: " ++ message
  | .pool message => "Pool error: " ++ message
  | .timeout budget => "Query timeout after " ++ budget.text
  | .cancelled => "Query cancelled"
  | .other message => message

def isNotFound : Error → Bool
  | .notFound _ => true
  | _ => false

def isTimeout : Error → Bool
  | .timeout _ => true
  | _ => false

def isCancelled : Error → Bool
  | .cancelled => true
  | _ => false

/-- The five-character code of an error that a PostgreSQL server reported. -/
def sqlstate? : Error → Option String
  | .query (.server sqlstate) => some sqlstate
  | _ => none

def isUniqueViolation (error : Error) : Bool := error.sqlstate? = some "23505"

def isForeignKeyViolation (error : Error) : Bool := error.sqlstate? = some "23503"

def isCheckViolation (error : Error) : Bool := error.sqlstate? = some "23514"

/-- A decode error moved to a column; every other error stays as it is. -/
def atColumn (column : String) : Error → Error
  | .decode _ fault => .decode column fault
  | error => error

def unknownDriver (tag : String) : Error := .config ("unsupported database driver: " ++ tag)

def invalidUrl : Error := .config "invalid database url: invalid connection string"

def missingColumn (index : Nat) : Error :=
  .other ("alter command refers to missing column #" ++ Text.natText index)

def noInsertedId : Error := .other "insert returned no id"

def noLastInsertId : Error := .other "backend reported no last insert id"

def noAggregateRow : Error := .notFound "aggregate query returned no rows"

def transactionFinished : Error := .noExecutor "transaction already finished"

def detachedBuilder : Error :=
  .noExecutor "builder is bound to neither a database nor a transaction"

def sessionFinished : Error := .connection "transaction already finished"

def connectionRefused : Error := .pool "Error occurred while creating a new object: db error"

def malformedJson : Error := .serialization "malformed JSON text"

end Error
end FluentSql
