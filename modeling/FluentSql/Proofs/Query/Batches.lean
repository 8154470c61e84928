import FluentSql.Proofs.Backend.Sending
import FluentSql.Proofs.Entries
import FluentSql.Proofs.Placeholder.Writes
import FluentSql.Proofs.Query.Terminals

/-! Inserts of many records. Records are taken together when they have the same columns, in whatever
order each has them, and then every value stands in the row of its record under its own column. -/
namespace FluentSql

namespace Fields

/-- The value that a record has for a column. Of equal columns the last one counts. -/
def last? (fields : Fields) (column : String) : Option Value := Entries.find? fields.reverse column

def SameColumns (first second : Fields) : Prop :=
  ∀ column, column ∈ first.columns ↔ column ∈ second.columns

theorem last?_eq_some_of_mem {fields : Fields} {column : String}
    (member : column ∈ fields.columns) :
      ∃ value, fields.last? column = some value := by
  have present : column ∈ fields.reverse.map Prod.fst := by
    rwa [List.map_reverse, List.mem_reverse]
  exact Option.isSome_iff_exists.mp (Entries.isSome_find?_iff.mpr present)

end Fields

namespace Batch

/-- A record has other columns than the first one. -/
def Misfits (records : List Fields) (index : Nat) : Prop :=
  ∃ first record, records[0]? = some first ∧ records[index]? = some record ∧
    ¬ record.SameColumns first

/-- The first record with other columns than those of the first one. -/
def FirstMisfit (records : List Fields) (index : Nat) : Prop :=
  Misfits records index ∧ ∀ earlier < index, ¬ Misfits records earlier

theorem keys_eq_iff {first second : Fields} :
    keys (Entries.ofPairs first) = keys (Entries.ofPairs second) ↔ first.SameColumns second :=
  Entries.keys_ofPairs_eq_iff

theorem misfit?_eq_none_iff {expected : List String} {rows : List (Entries Value)} (start : Nat) :
    misfit? expected start rows = none ↔ ∀ row ∈ rows, keys row = expected := by
  induction rows generalizing start with
  | nil => simp [misfit?]
  | cons row rest ih =>
    by_cases fits : keys row = expected
    · simp [misfit?, fits, ih]
    · simp [misfit?, fits]

/-- The row that is refused is the first one that does not fit. -/
theorem misfit?_eq_some {expected : List String} {rows : List (Entries Value)} {start : Nat}
    {misuse : Misuse} (refused : misfit? expected start rows = some misuse) :
    ∃ index row, rows[index]? = some row ∧ keys row ≠ expected ∧
      (∀ earlier < index, ∀ other, rows[earlier]? = some other → keys other = expected) ∧
      misuse = .batchColumns (start + index) (keys row) expected := by
  induction rows generalizing start with
  | nil => cases refused
  | cons row rest ih =>
    unfold misfit? at refused
    split at refused
    · rename_i fits
      obtain ⟨index, found, present, misfits, before, same⟩ := ih refused
      refine ⟨index + 1, found, present, misfits, ?_,
        by rw [same, Nat.add_right_comm, Nat.add_assoc]⟩
      intro earlier less other at_
      cases earlier with
      | zero => rwa [← Option.some.inj at_]
      | succ earlier => exact before earlier (Nat.lt_of_succ_lt_succ less) other at_
    · rename_i misfits
      exact ⟨0, row, rfl, misfits, fun _ less => absurd less (Nat.not_lt_zero _),
        (Option.some.inj refused).symm⟩

theorem misfits_cons_iff {first : Fields} {rest : List Fields} {index : Nat} :
    Misfits (first :: rest) index ↔ ∃ record, (first :: rest)[index]? = some record ∧
      keys (Entries.ofPairs record) ≠ keys (Entries.ofPairs first) := by
  constructor
  · rintro ⟨_, record, ⟨⟩, present, differs⟩
    exact ⟨record, present, fun same => differs (keys_eq_iff.mp same)⟩
  · rintro ⟨record, present, differs⟩
    exact ⟨first, record, rfl, present, fun same => differs (keys_eq_iff.mpr same)⟩

/-- A batch is refused for its first misfit. -/
theorem collect_of_misfits {records : List Fields} (misfits : ∃ index, Misfits records index) :
    ∃ index record, FirstMisfit records index ∧ records[index]? = some record ∧
      collect records = .error (.validation
        (.batchColumns index (keys (Entries.ofPairs record)) (columnsOf records))) := by
  obtain ⟨index, misfit⟩ := misfits
  cases records with
  | nil =>
    obtain ⟨_, _, none, _⟩ := misfit
    cases none
  | cons first rest =>
    simp only [collect, List.map_cons]
    cases refused : misfit? (keys (Entries.ofPairs first)) 1 (rest.map Entries.ofPairs) with
    | none =>
      have fits := (misfit?_eq_none_iff 1).mp refused
      obtain ⟨record, present, differs⟩ := misfits_cons_iff.mp misfit
      rcases List.mem_cons.mp (List.mem_of_getElem? present) with rfl | member
      · exact absurd rfl differs
      · exact absurd (fits _ (List.mem_map_of_mem member)) differs
    | some misuse =>
      obtain ⟨place, row, present, differs, before, same⟩ := misfit?_eq_some refused
      rw [List.getElem?_map] at present
      obtain ⟨record, found, rfl⟩ := Option.map_eq_some_iff.mp present
      refine ⟨place + 1, record, ⟨misfits_cons_iff.mpr ⟨record, found, differs⟩, ?_⟩, found,
        by rw [same, Nat.add_comm]; rfl⟩
      rintro earlier less sooner
      obtain ⟨other, there, wrong⟩ := misfits_cons_iff.mp sooner
      cases earlier with
      | zero =>
        obtain rfl : first = other := Option.some.inj there
        exact wrong rfl
      | succ earlier =>
        refine wrong (before earlier (Nat.lt_of_succ_lt_succ less) _ ?_)
        rw [List.getElem?_map]
        exact congrArg _ there

/-- Records without misfits have the same columns in the same order. -/
theorem forall_not_misfits_iff {records : List Fields} : (∀ index, ¬ Misfits records index) ↔
    ∀ record ∈ records, keys (Entries.ofPairs record) = columnsOf records := by
  cases records with
  | nil => exact ⟨fun _ => nofun, fun _ index ⟨_, _, absent, _⟩ => by cases absent⟩
  | cons first rest =>
    constructor
    · intro alike record member
      obtain ⟨index, present⟩ := List.mem_iff_getElem?.mp member
      by_contra differs
      exact alike index (misfits_cons_iff.mpr ⟨record, present, differs⟩)
    · intro same index misfits
      obtain ⟨record, present, differs⟩ := misfits_cons_iff.mp misfits
      exact differs (same record (List.mem_of_getElem? present))

theorem mem_columnsOf_iff {records : List Fields} (alike : ∀ index, ¬ Misfits records index)
    {record : Fields} (member : record ∈ records) (column : String) :
    column ∈ columnsOf records ↔ column ∈ record.columns := by
  rw [← forall_not_misfits_iff.mp alike record member]
  exact Entries.mem_keys_ofPairs_iff

theorem sorted_columnsOf (records : List Fields) : (columnsOf records).Pairwise (· < ·) := by
  cases records with
  | nil => exact List.Pairwise.nil
  | cons first rest => exact Entries.sorted_ofPairs first

theorem collect_of_alike {records : List Fields} (alike : ∀ index, ¬ Misfits records index) :
    collect records = .ok ⟨columnsOf records, records.map Entries.ofPairs⟩ := by
  cases records with
  | nil => rfl
  | cons first rest =>
    have fits : misfit? (keys (Entries.ofPairs first)) 1 (rest.map Entries.ofPairs) = none := by
      rw [misfit?_eq_none_iff]
      intro row member
      obtain ⟨record, later, rfl⟩ := List.mem_map.mp member
      exact forall_not_misfits_iff.mp alike record (List.mem_cons_of_mem first later)
    simp only [collect, List.map_cons, fits, columnsOf]

/-- A list in rows of one width: the entry of a row and a column. -/
theorem getElem?_flatMap_row {row : α → List β} {width : Nat} {items : List α}
    (wide : ∀ item ∈ items, (row item).length = width) {i j : Nat} {item : α}
    (present : items[i]? = some item) (inside : j < width) :
    (items.flatMap row)[i * width + j]? = (row item)[j]? := by
  induction items generalizing i with
  | nil => cases present
  | cons first rest ih =>
    have long := wide first List.mem_cons_self
    rw [List.flatMap_cons]
    cases i with
    | zero =>
      obtain rfl : first = item := Option.some.inj present
      rw [Nat.zero_mul, Nat.zero_add, List.getElem?_append_left (by omega)]
    | succ i =>
      have tail := ih (fun other member => wide other (List.mem_cons_of_mem first member)) present
      rw [Nat.succ_mul, List.getElem?_append_right (by omega), long, ← tail]
      congr 1
      omega

theorem length_flatMap_row {row : α → List β} {width : Nat} {items : List α}
    (wide : ∀ item ∈ items, (row item).length = width) :
    (items.flatMap row).length = items.length * width := by
  induction items with
  | nil => simp
  | cons first rest ih =>
    rw [List.flatMap_cons, List.length_append, wide first List.mem_cons_self,
      ih fun other member => wide other (List.mem_cons_of_mem first member), List.length_cons,
      Nat.succ_mul, Nat.add_comm]

/-- The values of records in rows, under columns in order that all records have. -/
structure LaidOut (records : List Fields) (columns : List String) (args : List Value) : Prop where
  ordered : columns.Pairwise (· < ·)
  shared : ∀ record ∈ records, ∀ column, column ∈ columns ↔ column ∈ record.columns
  size : args.length = records.length * columns.length
  placed : ∀ i record j column, records[i]? = some record → columns[j]? = some column →
    args[i * columns.length + j]? = record.last? column

/-- Sorting a record keeps the value that it has for a column. -/
theorem value_ofPairs_eq_last? {record : Fields} {column : String}
    (member : column ∈ record.columns) :
    some (value (Entries.ofPairs record) column) = record.last? column := by
  obtain ⟨held, found⟩ := Fields.last?_eq_some_of_mem member
  rw [value, Entries.find?_ofPairs_eq_reverse, ← Fields.last?, found]
  rfl

theorem laidOut_values {records : List Fields} (alike : ∀ index, ¬ Misfits records index) :
    LaidOut records (columnsOf records)
      (values ⟨columnsOf records, records.map Entries.ofPairs⟩) := by
  have wide : ∀ record ∈ records, ((columnsOf records).map
      (value (Entries.ofPairs record))).length = (columnsOf records).length :=
    fun _ _ => List.length_map _
  have rows : values ⟨columnsOf records, records.map Entries.ofPairs⟩ =
      records.flatMap fun record => (columnsOf records).map (value (Entries.ofPairs record)) := by
    rw [values, List.flatMap_map]
  refine ⟨sorted_columnsOf records, fun record => mem_columnsOf_iff alike, ?_, ?_⟩
  · rw [rows, length_flatMap_row wide]
  · intro i record j column present there
    obtain ⟨inside, _⟩ := List.getElem?_eq_some_iff.mp there
    have member := (mem_columnsOf_iff alike (List.mem_of_getElem? present) column).mp
      (List.mem_of_getElem? there)
    rw [rows, getElem?_flatMap_row wide present inside, List.getElem?_map, there]
    exact value_ofPairs_eq_last? member

end Batch

namespace Query

variable {σ : Type} [Backend σ] {query : Query}

/-- The text of an insert: a list of columns, and for every record a placeholder for each. -/
def insertText (query : Query) (columns : List String) (records : List Fields) : String :=
  "INSERT INTO " ++ query.table ++ " (" ++ Text.commaList columns ++ ") VALUES " ++
    Text.commaList (records.map fun _ => "(" ++ Text.commaList (columns.map fun _ => "?") ++ ")")

theorem insertSql_eq_insertText (query : Query) (columns : List String) (records : List Fields) :
    query.insertSql columns records.length = query.insertText columns records := by
  have marks : Text.placeholders columns.length = Text.commaList (columns.map fun _ => "?") := by
    rw [Text.placeholders, List.map_const']
  delta insertSql insertText
  rw [List.map_const', marks]

/-- What becomes of an insert of many records. -/
structure Inserts (query : Query) (context : Context) (records : List Fields) (suffix : String)
    (nothing : α) (world : World (Journaled σ)) (result : Ending α × World (Journaled σ)) :
    Prop where
  /-- Without records nothing is done. -/
  empty : records = [] → result = (.done nothing, world)
  /-- The first record with other columns than those of the first one is named in the error, and
  nothing is done. -/
  refused : (∃ index, Batch.Misfits records index) →
    ∃ index record, Batch.FirstMisfit records index ∧ records[index]? = some record ∧
      result = (.failed (.validation (.batchColumns index
        (Batch.keys (Entries.ofPairs record)) (Batch.columnsOf records))), world)
  /-- Records with the same columns are sent together, every value at its place. -/
  accepted : records ≠ [] → (∀ index, ¬ Batch.Misfits records index) →
    ∃ columns args, Batch.LaidOut records columns args ∧
      query.connection.Sent context (query.insertText columns records ++ suffix) args world result

/-- The statement of a batch, if there is one, with what its insert ends in. -/
def batchStatement? (query : Query) (records : List Fields) (suffix : String) :
    Except Error (Option Statement) :=
  (Batch.collect records).map fun batch =>
    if batch.isEmpty then none
    else some ⟨query.insertSql batch.columns batch.rows.length ++ suffix, batch.values⟩

theorem batchInsertStatement?_eq (table : query.table ≠ "") (sound : query.fault? = none)
    (records : List Fields) :
    query.batchInsertStatement? records = query.batchStatement? records "" := by
  have target := requireTarget_of_sound table sound "batch insert"
  simp only [batchInsertStatement?, target, batchStatement?, insertBatch, String.append_empty]
  cases Batch.collect records <;> rfl

theorem bulkInsertStatement?_eq (table : query.table ≠ "") (sound : query.fault? = none)
    (records : List Fields) :
    query.bulkInsertStatement? records =
      query.batchStatement? records (if query.dialect.returnsIds then " RETURNING id" else "") := by
  have target := requireTarget_of_sound table sound "bulk insert"
  have suffixed (sql : String) : query.returningId sql =
      sql ++ (if query.dialect.returnsIds then " RETURNING id" else "") := by
    unfold returningId
    split
    · rfl
    · rw [String.append_empty]
  simp only [bulkInsertStatement?, target, batchStatement?, insertBatch, suffixed]
  cases Batch.collect records <;> rfl

omit [Backend σ] in
/-- An insert of a batch is what it does with the statement, if there is one. -/
theorem inserts_of_batchStatement? (query : Query) {context : Context} {records : List Fields}
    {suffix : String} {nothing : α} {world : World (Journaled σ)}
    {next : Option Statement → Task (Journaled σ) α} (ends : next none = pure nothing)
    (sends : ∀ statement, query.connection.Sent context statement.sql statement.args world
      (next (some statement) world)) :
    query.Inserts context records suffix nothing world
      ((Task.ofExcept (query.batchStatement? records suffix) >>= next) world) where
  empty empty := by
    subst empty
    have built : query.batchStatement? [] suffix = .ok none := rfl
    rw [built]
    exact congrFun ends world
  refused misfits := by
    obtain ⟨index, record, first, present, refused⟩ := Batch.collect_of_misfits misfits
    refine ⟨index, record, first, present, ?_⟩
    rw [batchStatement?, refused]
    rfl
  accepted filled alike := by
    refine ⟨_, _, Batch.laidOut_values alike, ?_⟩
    have rows : (records.map Entries.ofPairs).isEmpty = false := by simpa using filled
    have built : query.batchStatement? records suffix = .ok (some
        ⟨query.insertText (Batch.columnsOf records) records ++ suffix,
          Batch.values ⟨Batch.columnsOf records, records.map Entries.ofPairs⟩⟩) := by
      simp only [batchStatement?, Batch.collect_of_alike alike, Except.map, Batch.isEmpty, rows,
        List.length_map, insertSql_eq_insertText]
      rfl
    rw [built]
    exact sends ⟨query.insertText (Batch.columnsOf records) records ++ suffix, _⟩

theorem inserts_batchInsert (table : query.table ≠ "") (sound : query.fault? = none)
    (records : List Fields) (context : Context) (world : World (Journaled σ)) :
    query.Inserts context records "" 0 world (query.batchInsert context records world) := by
  unfold batchInsert
  rw [batchInsertStatement?_eq table sound]
  refine inserts_of_batchStatement? query rfl fun statement => ?_
  exact (query.connection.sent_exec context statement.sql statement.args world).bind
    fun _ => Task.silent_pure _

theorem inserts_bulkInsert (table : query.table ≠ "") (sound : query.fault? = none)
    (records : List Fields) (context : Context) (world : World (Journaled σ)) :
    query.Inserts context records (if query.dialect.returnsIds then " RETURNING id" else "") []
      world (query.bulkInsert context records world) := by
  unfold bulkInsert
  rw [bulkInsertStatement?_eq table sound]
  refine inserts_of_batchStatement? query rfl fun statement => ?_
  dsimp only
  split
  · exact (query.connection.sent_select context statement.sql statement.args world).bind
      fun _ => Task.silent_ofExcept _
  · refine (query.connection.sent_exec context statement.sql statement.args world).bind ?_
    intro result
    refine (Write.silent_lastInsertId result).bind fun id => ?_
    exact (Task.silent_report _).bind fun _ => Task.silent_pure _

/-- Both inserts of many records take the columns of the records for theirs, whatever the order in
which each record has them. -/
theorem inserts_many (query : Query) (table : query.table ≠ "") (sound : query.fault? = none)
    (records : List Fields) (context : Context) (world : World (Journaled σ)) :
    query.Inserts context records "" 0 world (query.batchInsert context records world) ∧
    query.Inserts context records (if query.dialect.returnsIds then " RETURNING id" else "") []
      world (query.bulkInsert context records world) :=
  ⟨inserts_batchInsert table sound records context world,
    inserts_bulkInsert table sound records context world⟩

theorem inserts_many_in_any_order : ∃ columns args,
    Batch.LaidOut [[("name", .text "a"), ("age", .int 30)], [("age", .null), ("name", .text "b")]]
      columns args ∧
    ((Query.new ⟨.pool, .postgres⟩ "users").batchInsert .background
        [[("name", .text "a"), ("age", .int 30)], [("age", .null), ("name", .text "b")]]
        (World.start (⟨.empty, []⟩ : Journaled Recorder))).2.backend.calls =
      [.statement none (Dialect.postgres.rebind
        ((Query.new ⟨.pool, .postgres⟩ "users").insertText columns
          [[("name", .text "a"), ("age", .int 30)], [("age", .null), ("name", .text "b")]] ++ ""))
        args] := by
  obtain ⟨columns, args, laid, sent⟩ := (inserts_many (Query.new ⟨.pool, .postgres⟩ "users")
    (by decide) (by decide)
    [[("name", .text "a"), ("age", .int 30)], [("age", .null), ("name", .text "b")]] .background
    (World.start (⟨.empty, []⟩ : Journaled Recorder))).1.accepted (by decide)
      (Batch.forall_not_misfits_iff.mpr (by decide))
  exact ⟨columns, args, laid, sent.started (Connection.refusal?_background rfl)⟩

end Query
end FluentSql
