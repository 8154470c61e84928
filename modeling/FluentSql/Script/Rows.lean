import FluentSql.Entity
import FluentSql.Script.Reports
import FluentSql.Script.Values

/-! Types of columns, rows and records by the names that scripts give them. -/
namespace FluentSql.Script

def withType (name : String) (found : (α : Type) → FromValue α → (α → Json) → β) : Reading β :=
  match name with
  | "i64" => .ok (found Int64 inferInstance fun x => .int x.toInt)
  | "i32" => .ok (found Int32 inferInstance fun x => .int x.toInt)
  | "i16" => .ok (found Int16 inferInstance fun x => .int x.toInt)
  | "u32" => .ok (found UInt32 inferInstance fun x => natural x.toNat)
  | "u64" => .ok (found UInt64 inferInstance fun x => natural x.toNat)
  | "f64" => .ok (found Double inferInstance doubleJson)
  | "f32" => .ok (found Single inferInstance singleJson)
  | "decimal" => .ok (found Decimal inferInstance fun x => .string x.text)
  | "bool" => .ok (found Bool inferInstance .bool)
  | "text" => .ok (found String inferInstance .string)
  | "bytes" => .ok (found (List UInt8) inferInstance bytesJson)
  | "date" => .ok (found Date inferInstance fun x => .string x.text)
  | "time" => .ok (found Time inferInstance fun x => .string x.text)
  | "datetime" => .ok (found DateTime inferInstance fun x => .string x.text)
  | "timestamp" => .ok (found Timestamp inferInstance fun x => .string x.text)
  | "json" => .ok (found Json inferInstance id)
  | "uuid" => .ok (found Uuid inferInstance fun x => .string x.text)
  | "value" => .ok (found Value inferInstance valueJson)
  | "opt_i64" => .ok (found (Option Int64) inferInstance (optional fun x => .int x.toInt))
  | "opt_f64" => .ok (found (Option Double) inferInstance (optional doubleJson))
  | "opt_text" => .ok (found (Option String) inferInstance (optional .string))
  | "opt_bool" => .ok (found (Option Bool) inferInstance (optional .bool))
  | "opt_date" => .ok (found (Option Date) inferInstance (optional fun x => .string x.text))
  | "opt_value" => .ok (found (Option Value) inferInstance (optional valueJson))
  | other => .error ("column type " ++ other)

def rowJson (row : Row) : Json :=
  object [("columns", stringsJson row.columns), ("values", valuesJson row.values)]

def entriesJson (entries : List (String × Value)) : Json :=
  .array (entries.map fun entry => .array [.string entry.1, valueJson entry.2])

def userJson (user : User) : Json :=
  object [("id", .int user.id.toInt), ("name", .string user.name),
    ("email", optional .string user.email), ("note", .string user.note)]

def eventJson (event : Event) : Json :=
  .array [.string event.title, .int event.key.toInt, .int event.rank.toInt,
    .string event.price.text, doubleJson event.ratio, .bool event.active, bytesJson event.data,
    .string event.day.text, .string event.clock.text, .string event.starts.text,
    optional (fun x => .string x.text) event.ends, event.details, .string event.uid.text,
    optional singleJson event.score, optional (fun x => .int x.toInt) event.small,
    natural event.wide.toNat]

def withRowType (name : String) (found : (α : Type) → FromRow α → (α → Json) → β) : Reading β :=
  match name with
  | "row" => .ok (found Row inferInstance rowJson)
  | "map" => .ok (found (Entries Value) inferInstance entriesJson)
  | "one" => .ok (found (Column Int64) inferInstance fun x => .array [.int x.value.toInt])
  | "two" => .ok (found (Int64 × String) inferInstance fun x =>
      .array [.int x.1.toInt, .string x.2])
  | "three" => .ok (found (Int64 × String × Option Double) inferInstance fun x =>
      .array [.int x.1.toInt, .string x.2.1, optional doubleJson x.2.2])
  | "four" => .ok (found (Int64 × String × Option Double × Bool) inferInstance fun x =>
      .array [.int x.1.toInt, .string x.2.1, optional doubleJson x.2.2.1, .bool x.2.2.2])
  | "user" => .ok (found User inferInstance userJson)
  | "event" => .ok (found Event inferInstance eventJson)
  | other => .error ("row type " ++ other)

def recordFields (json : Json) : Reading (Except Halt Fields) := do
  match given? json "map", given? json "pairs", given? json "user", given? json "event" with
  | some map, _, _, _ => pure (.ok (Entries.ofPairs (← pairs map)))
  | _, some list, _, _ => pure (.ok (← pairs list))
  | _, _, some cells, _ =>
    let user : Except Halt User := fromRow (Row.ofPairs (← pairs cells))
    pure (user.map Record.fields)
  | _, _, _, some cells =>
    let event : Except Halt Event := fromRow (Row.ofPairs (← pairs cells))
    pure (event.map Record.fields)
  | _, _, _, _ => .error "record"

end FluentSql.Script
