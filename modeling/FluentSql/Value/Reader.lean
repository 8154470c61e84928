import FluentSql.Calendar.Reader
import FluentSql.Decimal.Reader
import FluentSql.Json.Reader
import FluentSql.Number.Reader
import FluentSql.Number.Written
import FluentSql.Value.Basic

/-! Values read from serialized text. -/
namespace FluentSql.Value
open Json (Source)

/-- The variants by their tags. -/
inductive Tag where
  | null
  | bool
  | int
  | float
  | decimal
  | text
  | bytes
  | date
  | time
  | dateTime
  | timestamp
  | json
  | uuid
  deriving DecidableEq

def Tag.parse? : String → Option Tag
  | "null" => some .null
  | "bool" => some .bool
  | "int" => some .int
  | "float" => some .float
  | "decimal" => some .decimal
  | "text" => some .text
  | "bytes" => some .bytes
  | "date" => some .date
  | "time" => some .time
  | "date_time" => some .dateTime
  | "timestamp" => some .timestamp
  | "json" => some .json
  | "uuid" => some .uuid
  | _ => none

def int64? (value : Int) : Option Int64 :=
  if -9223372036854775808 ≤ value ∧ value < 9223372036854775808 then some (Int64.ofInt value)
  else none

def amount? : Source → Option Json.Amount
  | .number numeral => numeral.amount?
  | _ => none

def string? : Source → Option String
  | .string content => content
  | _ => none

def byte? (source : Source) : Option UInt8 :=
  match amount? source with
  | some (.int value) => if 0 ≤ value ∧ value < 256 then some (UInt8.ofNat value.toNat) else none
  | _ => none

def double? (source : Source) : Option Double :=
  (amount? source).map fun amount => match amount with
    | .int value => Double.ofInt value
    | .float value => value

/-- A decimal is written as a string; numbers are taken by their digits. -/
def decimal? : Source → Option Decimal
  | .string content => content.bind fun text => Decimal.parse? text.toList
  | source =>
    match amount? source with
    | some (.int value) => Decimal.signed? (value < 0) value.natAbs 0
    | some (.float value) => Decimal.parse? (value.text Number.Layout.literal).toList
    | none => none

/-- The content of a variant; `depth` limits how deep a JSON value may nest. -/
def ofContent? (depth : Nat) (tag : Tag) (source : Source) : Option Value :=
  match tag with
  | .null => match source with
    | .null => some .null
    | _ => none
  | .bool => match source with
    | .bool value => some (.bool value)
    | _ => none
  | .int => match amount? source with
    | some (.int value) => (int64? value).map .int
    | _ => none
  | .float => (double? source).map .float
  | .decimal => (decimal? source).map .decimal
  | .text => (string? source).map .text
  | .bytes => match source with
    | .array items => (items.mapM byte?).map .bytes
    | _ => none
  | .date => ((string? source).bind Calendar.readSerializedDate).map .date
  | .time => ((string? source).bind Calendar.readSerializedTime).map .time
  | .dateTime => ((string? source).bind Calendar.readSerializedDateTime).map .dateTime
  | .timestamp => ((string? source).bind Calendar.readTimestamp).map .timestamp
  | .json => (Json.ofSource depth source).map .json
  | .uuid => ((string? source).bind Uuid.parse?).map .uuid

/-- The one member of a given name; absent when there are none, refused when there are several. -/
def uniqueMember (name : String) (members : List (Option String × Source)) :
    Option (Option Source) :=
  if members.any fun member => member.1.isNone then none
  else match members.filter fun member => member.1 == some name with
  | [] => some none
  | [member] => some (some member.2)
  | _ => none

/-- An object with a tag and a content in either order, or the two in a list; only null needs no
content. -/
def ofSource? (depth : Nat) : Source → Option Value
  | .object members => do
    let tagSource ← uniqueMember "type" members
    let contentSource ← uniqueMember "value" members
    let tag ← (tagSource.bind string?).bind Tag.parse?
    match contentSource with
    | some source => ofContent? (depth - 1) tag source
    | none => if tag = .null then some .null else none
  | .array [tagSource, source] => do
    let tag ← (string? tagSource).bind Tag.parse?
    ofContent? (depth - 1) tag source
  | _ => none

def deserialize? (text : String) : Option Value :=
  (Source.parse? text.toList).bind (ofSource? Json.depthLimit)

end FluentSql.Value
