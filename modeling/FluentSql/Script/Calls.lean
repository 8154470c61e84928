import FluentSql.Database
import FluentSql.Script.Builders
import FluentSql.Script.Rows
import FluentSql.Script.Schemas

/-! Calls of a session in scripts: what is asked of a database, where, and under which context. -/
namespace FluentSql.Script

/-- Where the builders of a call run, where its hand-written statements run, and the context. -/
structure Site where
  builder : Connection
  direct : Connection
  context : Context

def Site.database (site : Site) : Database := ⟨site.direct.dialect⟩

/-- The one cache driver of a script. -/
def scriptDriver : DriverId := 0

/-- A call that answers with JSON. -/
abbrev Call (σ : Type) := Site → Task σ Json

variable {σ : Type} [Backend σ]

private def answer (write : α → Json) (task : Task σ α) : Task σ Json := write <$> task

private def count (number : UInt64) : Json := natural number.toNat

private def identity (id : Int64) : Json := .int id.toInt

private def listed (write : α → Json) (items : List α) : Json := .array (items.map write)

def writeJson (result : WriteResult) : Json :=
  .array [count result.rowsAffected, optional identity result.lastInsertId?]

def pageJson (write : α → Json) (page : Pagination α) : Json := object [
  ("data", listed write page.data), ("total", count page.total), ("per_page", count page.perPage),
  ("current_page", count page.currentPage), ("last_page", count page.lastPage),
  ("has_more_pages", .bool page.hasMorePages), ("is_empty", .bool page.isEmpty)]

/-- The builder of a call. -/
def builder (step : Json) : Reading (Site → Query) := do
  let table ← stringOr step "table" ""
  let steps ← buildSteps step
  pure fun site => Query.applyAll (Query.new site.builder table) steps

private def rowType (step : Json) : Reading String := stringOr step "as" "row"

private def word (step : Json) (name : String) : Reading String := do string (← member step name)

def readCall (step : Json) : Reading (Option (Call σ)) := do
  let query ← builder step
  match ← word step "do" with
  | "get" =>
    withRowType (← rowType step) fun α _ write => some fun site =>
      answer (listed write) ((query site).get (α := α) site.context)
  | "first" =>
    withRowType (← rowType step) fun α _ write => some fun site =>
      answer (optional write) ((query site).first (α := α) site.context)
  | "find" =>
    let id ← value (← member step "id")
    withRowType (← rowType step) fun α _ write => some fun site =>
      answer (optional write) ((query site).find (α := α) site.context id)
  | "pluck" =>
    let column ← word step "column"
    withType (← stringOr step "type" "value") fun α _ write => some fun site =>
      answer (listed write) ((query site).pluck (α := α) site.context column)
  | "count" => pure (some fun site => answer count ((query site).count site.context))
  | "exists" => pure (some fun site => answer .bool ((query site).exists? site.context))
  | "sum" => aggregate query .sum
  | "avg" => aggregate query .avg
  | "min" => aggregate query .min
  | "max" => aggregate query .max
  | "paginate" =>
    let page ← uint64 (← member step "page")
    let perPage ← uint64 (← member step "per_page")
    withRowType (← rowType step) fun α _ write => some fun site =>
      answer (pageJson write) ((query site).paginate (α := α) site.context page perPage)
  | "to_sql" => pure (some fun site => do
      let statement ← Task.ofExcept (query site).toSql
      pure (statementJson statement.sql statement.args))
  | _ => pure none
where
  aggregate (query : Site → Query) (aggregate : Aggregate) : Reading (Option (Call σ)) := do
    let column ← word step "column"
    pure (some fun site =>
      answer (optional doubleJson) ((query site).aggregate site.context aggregate column))

private def records (step : Json) : Reading (Except Halt (List Fields)) := do
  let each ← listOf recordFields (← member step "records")
  pure (each.mapM id)

def writeCall (step : Json) : Reading (Option (Call σ)) := do
  let query ← builder step
  match ← word step "do" with
  | "create" =>
    let fields ← recordFields (← member step "record")
    pure (some fun site => do
      answer identity ((query site).create site.context (← Task.ofRow fields)))
  | "create_map" =>
    let data := Entries.ofPairs (← pairs (← member step "data"))
    pure (some fun site => answer identity ((query site).create site.context data))
  | "update" =>
    let fields ← recordFields (← member step "record")
    let names ← listOr string step "fields"
    pure (some fun site => do
      answer count ((query site).update site.context (← Task.ofRow fields) names))
  | "update_map" =>
    let data := Entries.ofPairs (← pairs (← member step "data"))
    pure (some fun site => answer count ((query site).updateMap site.context data))
  | "batch_insert" =>
    let records ← records step
    pure (some fun site => do
      answer count ((query site).batchInsert site.context (← Task.ofRow records)))
  | "bulk_insert" =>
    let records ← records step
    pure (some fun site => do
      answer (listed identity) ((query site).bulkInsert site.context (← Task.ofRow records)))
  | "bulk_update" =>
    let records ← records step
    let key ← word step "key"
    pure (some fun site => do
      answer count ((query site).bulkUpdate site.context (← Task.ofRow records) key))
  | "increment" =>
    let column ← word step "column"
    let amount ← value (← member step "amount")
    pure (some fun site => answer count ((query site).increment site.context column amount))
  | "decrement" =>
    let column ← word step "column"
    let amount ← value (← member step "amount")
    pure (some fun site => answer count ((query site).decrement site.context column amount))
  | "delete" => pure (some fun site => answer count ((query site).delete site.context))
  | _ => pure none

def directCall (step : Json) : Reading (Option (Call σ)) := do
  let sql ← stringOr step "sql" ""
  let args ← listOr value step "args"
  let raw (site : Site) : Raw := ⟨site.direct, sql, args⟩
  match ← word step "do" with
  | "raw_fetch_all" =>
    withRowType (← rowType step) fun α _ write => some fun site =>
      answer (listed write) ((raw site).fetchAll (α := α) site.context)
  | "raw_get" =>
    withRowType (← rowType step) fun α _ write => some fun site =>
      answer (optional write) ((raw site).get (α := α) site.context)
  | "raw_exec" => pure (some fun site => answer writeJson ((raw site).exec site.context))
  | "conn_select" => pure (some fun site =>
      answer (listed rowJson) (site.direct.select site.context sql args))
  | "conn_get" => pure (some fun site =>
      answer (optional rowJson) (site.direct.get site.context sql args))
  | "conn_exec" => pure (some fun site => answer writeJson (site.direct.exec site.context sql args))
  | "named_exec" =>
    let fields ← recordFields (← member step "record")
    pure (some fun site => do
      answer writeJson (site.direct.namedExec site.context sql (← Task.ofRow fields)))
  | _ => pure none

private def nothing (task : Task σ Unit) : Task σ Json := answer (fun () => .null) task

def tableCall (step : Json) : Reading (Option (Call σ)) := do
  let schema (mode : SchemaMode) : Reading (Option (Call σ)) := do
    let steps ← listOr schemaStep step "schema"
    let schema := Schema.ofSteps mode (← stringOr step "table" "") steps
    pure (some fun site => nothing (site.database.applySchema site.context schema))
  let tables ← listOr string step "tables"
  let cascade := flag step "cascade"
  match ← word step "do" with
  | "create_table" => schema .create
  | "update_table" => schema .alter
  | "drop_tables" =>
    let ifExists := flag step "if_exists"
    pure (some fun site => do
      site.database.dropTables site.context tables ifExists cascade
      pure (stringsJson (site.database.dialect.dropTables tables ifExists cascade)))
  | "truncate" =>
    let restart := flag step "restart_identity"
    pure (some fun site => do
      site.database.truncate site.context tables restart cascade
      pure (stringsJson (site.database.dialect.truncateTables tables restart cascade)))
  | "ping" => pure (some fun site => nothing (site.database.ping site.context))
  | "set_cache" => pure (some fun site => nothing (site.database.setCache scriptDriver))
  | "clear_cache" => pure (some fun site => nothing site.database.clearCache)
  | "forget" =>
    let key ← word step "key"
    pure (some fun _ => nothing
      (Task.modify fun world => { world with cache := world.cache.forget scriptDriver key }))
  | "sleep" =>
    let span := Duration.ofMicroseconds (← nat (← member step "us"))
    pure (some fun _ => nothing (Task.wait span))
  | _ => pure none

/-- Any call that stands for itself. -/
def call (step : Json) : Reading (Option (Call σ)) := do
  match ← readCall step with
  | some found => pure (some found)
  | none => match ← writeCall step with
    | some found => pure (some found)
    | none => match ← directCall step with
      | some found => pure (some found)
      | none => tableCall step

end FluentSql.Script
