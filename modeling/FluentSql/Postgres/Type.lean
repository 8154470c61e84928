/-! Types of parameters and result columns on a PostgreSQL server. -/
namespace FluentSql.Postgres

inductive WireType where
  | bool
  | int2
  | int4
  | int8
  | float4
  | float8
  | numeric
  | text
  | varchar
  | bpchar
  | name
  | unknown
  | bytea
  | date
  | time
  | timestamp
  | timestamptz
  | json
  | jsonb
  | uuid
  | other (name : String)
  deriving DecidableEq

namespace WireType

/-- The types that have a constructor of their own. -/
def known : List WireType := [.bool, .int2, .int4, .int8, .float4, .float8, .numeric, .text,
  .varchar, .bpchar, .name, .unknown, .bytea, .date, .time, .timestamp, .timestamptz, .json,
  .jsonb, .uuid]

def label : WireType → String
  | .bool => "bool"
  | .int2 => "int2"
  | .int4 => "int4"
  | .int8 => "int8"
  | .float4 => "float4"
  | .float8 => "float8"
  | .numeric => "numeric"
  | .text => "text"
  | .varchar => "varchar"
  | .bpchar => "bpchar"
  | .name => "name"
  | .unknown => "unknown"
  | .bytea => "bytea"
  | .date => "date"
  | .time => "time"
  | .timestamp => "timestamp"
  | .timestamptz => "timestamptz"
  | .json => "json"
  | .jsonb => "jsonb"
  | .uuid => "uuid"
  | .other given => given

def ofLabel (text : String) : WireType :=
  (known.find? fun type => type.label = text).getD (.other text)

/-- Types to which text goes as it is. -/
def takesText (type : WireType) : Bool :=
  match type with
  | .text | .varchar | .bpchar | .name | .unknown => true
  | _ => false

/-- Types that numbers and identifiers are written out for. -/
def isCharacters (type : WireType) : Bool :=
  match type with
  | .text | .varchar | .bpchar => true
  | _ => false

end WireType
end FluentSql.Postgres
