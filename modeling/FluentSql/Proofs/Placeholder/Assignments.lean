import FluentSql.Proofs.Batch
import FluentSql.Proofs.Placeholder.Builders
import FluentSql.Proofs.Placeholder.Names
import FluentSql.Query.Writes

/-! The writes of a builder and what they mean: which value belongs where in a statement that
inserts, updates or deletes. -/
namespace FluentSql

open Placeholder

/-- One of the writes of a builder. -/
inductive Write where
  | create (fields : Fields)
  | createMap (data : Entries Value)
  | batchInsert (records : List Fields)
  | bulkInsert (records : List Fields)
  | update (fields : Fields) (names : List String)
  | updateMap (data : Entries Value)
  | bulkUpdate (records : List Fields) (key : String)
  | increment (column : String) (amount : Value)
  | decrement (column : String) (amount : Value)
  | delete

/-- The columns of a record are distinct identifiers. -/
structure Fields.Named (fields : Fields) : Prop where
  distinct : fields.columns.Nodup
  identifiers : ∀ column ∈ fields.columns, Identifier column

instance (fields : Fields) : Decidable fields.Named :=
  decidable_of_iff (fields.columns.Nodup ∧ ∀ column ∈ fields.columns, Identifier column)
    ⟨fun both => ⟨both.1, both.2⟩, fun named => ⟨named.distinct, named.identifiers⟩⟩

namespace Write

/-- The statement of a write, none for no records. -/
def statement? (query : Query) : Write → Except Error (Option Statement)
  | .create fields => some <$> query.createStatement fields
  | .createMap data => some <$> query.createStatement data
  | .batchInsert records => query.batchInsertStatement? records
  | .bulkInsert records => query.bulkInsertStatement? records
  | .update fields names => some <$> query.updateStatement fields names
  | .updateMap data => some <$> query.updateMapStatement data
  | .bulkUpdate records key => query.bulkUpdateStatement? records key
  | .increment column amount => some <$> query.stepStatement column "+" amount
  | .decrement column amount => some <$> query.stepStatement column "-" amount
  | .delete => some <$> query.deleteStatement

/-- All names of a write are identifiers, those of one record distinct. -/
def Named : Write → Prop
  | .create fields | .createMap fields | .updateMap fields => Fields.Named fields
  | .batchInsert records | .bulkInsert records => ∀ fields ∈ records, fields.Named
  | .update fields names => fields.Named ∧ ∀ name ∈ names, Identifier name
  | .bulkUpdate records key => (∀ fields ∈ records, fields.Named) ∧ Identifier key
  | .increment column _ | .decrement column _ => Identifier column
  | .delete => True

/-- The columns that an update sets: those that are named, or else all. -/
def updated (fields : Fields) (names : List String) : List String :=
  if names.isEmpty then fields.columns else names

/-- The columns that a bulk update sets. -/
def targets (records : List Fields) (key : String) : List String :=
  (Batch.columnsOf records).filter (· ≠ key)

/-- The values that a write binds before its conditions, each looked up in its record. -/
def assigned : Write → List Value
  | .create fields | .createMap fields | .updateMap fields =>
    (Fields.columns fields).map (Batch.value fields)
  | .batchInsert records | .bulkInsert records =>
    records.flatMap fun fields => (Batch.columnsOf records).map (Batch.value fields)
  | .update fields names => (updated fields names).map (Batch.value fields)
  | .bulkUpdate records key =>
    ((targets records key).flatMap fun column =>
        records.flatMap fun fields => [Batch.value fields key, Batch.value fields column]) ++
      records.map fun fields => Batch.value fields key
  | .increment _ amount | .decrement _ amount => [amount]
  | .delete => []

/-- The arguments of the conditions of a write, in their order. An insert has no conditions. -/
def filters (query : Query) : Write → List Value
  | .create _ | .createMap _ | .batchInsert _ | .bulkInsert _ => []
  | _ => query.conditions.leaves.flatMap Fragment.args

/-- An insert with the value of every column of every record where that column is listed. -/
def insertion (write : Value → String) (table : String) (columns : List String)
    (records : List Fields) : String :=
  "INSERT INTO " ++ table ++ " (" ++ Text.commaList columns ++ ") VALUES " ++
    Text.commaList (records.map fun fields =>
      "(" ++ Text.commaList (columns.map fun column => write (Batch.value fields column)) ++ ")")

/-- Assignments of the values that a record has for some columns. -/
def assignments (write : Value → String) (columns : List String) (fields : Fields) : String :=
  Text.commaList (columns.map fun column => column ++ " = " ++ write (Batch.value fields column))

/-- The value of a column in every record, by the key of the record. -/
def cases (write : Value → String) (records : List Fields) (key column : String) : String :=
  column ++ " = CASE " ++ key ++ " " ++
    Text.join " " (records.map fun fields =>
      "WHEN " ++ write (Batch.value fields key) ++ " THEN " ++ write (Batch.value fields column)) ++
    " ELSE " ++ column ++ " END"

/-- A column moved by an amount. -/
def stepped (column operator amount : String) : String :=
  column ++ " = " ++ column ++ " " ++ operator ++ " " ++ amount

/-- What a write says before its conditions, with the values written in. -/
def assigning (write : Value → String) (query : Query) : Write → String
  | .create fields | .createMap fields =>
    query.returningId (insertion write query.table (Fields.columns fields) [fields])
  | .batchInsert records => insertion write query.table (Batch.columnsOf records) records
  | .bulkInsert records =>
    query.returningId (insertion write query.table (Batch.columnsOf records) records)
  | .update fields names =>
    "UPDATE " ++ query.table ++ " SET " ++ assignments write (updated fields names) fields
  | .updateMap data =>
    "UPDATE " ++ query.table ++ " SET " ++ assignments write (Fields.columns data) data
  | .bulkUpdate records key =>
    "UPDATE " ++ query.table ++ " SET " ++
      Text.commaList ((targets records key).map (cases write records key)) ++ " WHERE " ++ key ++
      " IN (" ++ Text.commaList (records.map fun fields => write (Batch.value fields key)) ++ ")"
  | .increment column amount =>
    "UPDATE " ++ query.table ++ " SET " ++ stepped column "+" (write amount)
  | .decrement column amount =>
    "UPDATE " ++ query.table ++ " SET " ++ stepped column "-" (write amount)
  | .delete => "DELETE FROM " ++ query.table

theorem assigning_bulkUpdate (write : Value → String) (query : Query) (records : List Fields)
    (key : String) : (bulkUpdate records key).assigning write query =
      "UPDATE " ++ query.table ++ " SET " ++
        Text.commaList ((targets records key).map (cases write records key)) ++ " WHERE " ++ key ++
        " IN (" ++ Text.commaList (records.map fun fields => write (Batch.value fields key)) ++
        ")" := rfl

/-- The conditions of a write with their arguments written in. -/
def filtering (write : Value → String) (query : Query) : Write → String
  | .create _ | .createMap _ | .batchInsert _ | .bulkInsert _ => ""
  | .bulkUpdate _ _ =>
    if query.conditions.isBlank then ""
    else " AND (" ++ (query.conditions.inlined write).text ++ ")"
  | _ => (query.inlined write).whereClause

end Write

section Fills

variable {write : Value → String} {query : Query}

theorem fills_assignments (write : Value → String) {columns : List String}
    (identifiers : ∀ column ∈ columns, Identifier column) (fields : Fields) :
    Fills write (Text.commaList (columns.map assignment)) (columns.map (Batch.value fields))
      (Write.assignments write columns fields) := by
  have each : ∀ column ∈ columns, Fills write (assignment column) [Batch.value fields column]
      (column ++ " = " ++ write (Batch.value fields column)) := by
    intro column member
    have sign : Inert " = " := by decide
    have marked : " = ?" = " = " ++ "?" := by decide
    have placed := (fills_mark write (Batch.value fields column)).after
      ((identifiers column member).inert.append sign)
    simpa only [assignment, marked, String.append_assoc] using placed
  have listed := fills_join assignment (fun column => [Batch.value fields column]) _ inert_comma
    columns each
  rw [← List.map_eq_flatMap] at listed
  exact listed

theorem fills_insertion (write : Value → String) (table : Inert query.table)
    {columns : List String} (inert : ∀ column ∈ columns, Inert column) (records : List Fields) :
    Fills write (query.insertSql columns records.length)
      (records.flatMap fun fields => columns.map (Batch.value fields))
      (Write.insertion write query.table columns records) := by
  have opening : Inert ("INSERT INTO " ++ query.table ++ " (" ++ Text.commaList columns ++
      ") VALUES ") := by
    have columned := inert_join inert_comma inert
    exact (((Inert.append (by decide) table).append (by decide)).append columned).append (by decide)
  have each : ∀ fields ∈ records,
      Fills write ("(" ++ Text.placeholders columns.length ++ ")")
        (columns.map (Batch.value fields))
        ("(" ++ Text.commaList (columns.map fun column => write (Batch.value fields column)) ++
          ")") := by
    intro fields _
    have listed := fills_placeholders write (columns.map (Batch.value fields))
    rw [List.length_map, List.map_map] at listed
    exact (listed.after (by decide)).before (by decide)
  have rows := fills_join (fun _ => "(" ++ Text.placeholders columns.length ++ ")")
    (fun fields => columns.map (Batch.value fields)) _ inert_comma records each
  rw [List.map_const'] at rows
  exact rows.after opening

theorem fills_returningId (query : Query) (fills : Fills write sql held result) :
    Fills write (query.returningId sql) held (query.returningId result) := by
  unfold Query.returningId
  split
  · exact fills.before (by decide)
  · exact fills

theorem fills_cases (write : Value → String) {key column : String} (name : Inert key)
    (inert : Inert column) (records : List Fields) :
    Fills write (Query.caseText key column records.length)
      (records.flatMap fun fields => [Batch.value fields key, Batch.value fields column])
      (Write.cases write records key column) := by
  have each : ∀ fields ∈ records, Fills write "WHEN ? THEN ?"
      [Batch.value fields key, Batch.value fields column]
      ("WHEN " ++ write (Batch.value fields key) ++ " THEN " ++
        write (Batch.value fields column)) := by
    intro fields _
    have opening : Inert "WHEN " := by decide
    have middle : Inert " THEN " := by decide
    have marked : "WHEN ? THEN ?" = "WHEN " ++ "?" ++ " THEN " ++ "?" := by decide
    rw [marked]
    exact (fills_marked write opening _ middle).append (fills_mark write _)
  have rows := fills_join (fun _ => "WHEN ? THEN ?")
    (fun fields => [Batch.value fields key, Batch.value fields column]) _ inert_blank records each
  rw [List.map_const'] at rows
  have opening : Inert (column ++ " = CASE " ++ key ++ " ") :=
    ((inert.append (by decide)).append name).append (by decide)
  exact (((rows.after opening).before (by decide)).before inert).before (by decide)

theorem fills_stepped (write : Value → String) {column operator : String} (name : Inert column)
    (sign : Inert operator) (amount : Value) :
    Fills write (column ++ " = " ++ column ++ " " ++ operator ++ " ?") [amount]
      (Write.stepped column operator (write amount)) := by
  have opening : Inert (column ++ " = " ++ column ++ " " ++ operator) :=
    (((name.append (by decide)).append name).append (by decide)).append sign
  have marked : " ?" = " " ++ "?" := by decide
  have placed := (fills_mark write amount).after (opening.append inert_blank)
  simpa only [Write.stepped, marked, String.append_assoc] using placed

end Fills
end FluentSql
