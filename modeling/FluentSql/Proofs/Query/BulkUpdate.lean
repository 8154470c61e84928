import FluentSql.Proofs.Predicate.Parentheses
import FluentSql.Proofs.Query.Batches
import FluentSql.Proofs.Query.Cases
import Mathlib.Data.List.Find
import Mathlib.Tactic.Ring

/-! Updates of many rows by their keys. Read as CASE and IN are meant, the statement gives every row
of the batch the values of its record, under the conditions of the builder, and changes no other
row. -/
namespace FluentSql

/-- Conditions hold where what their text reads as holds, and always where they show no text. -/
def Conditions.Holds (truth : Fragment → Prop) (conditions : Conditions) : Prop :=
  ∀ formula, Reads .alternatives conditions.tokens formula → formula.Holds truth

namespace Batch

/-- Records that a bulk update takes. They have the same columns, the key and some other. -/
structure Keyed (records : List Fields) (key : String) : Prop where
  filled : records ≠ []
  alike : ∀ index, ¬ Misfits records index
  keyed : key ∈ columnsOf records
  others : Write.targets records key ≠ []

/-- The values that records have for a column. -/
def column (records : List Fields) (column : String) : List Value :=
  records.map fun record => value (Entries.ofPairs record) column

/-- The keys of records, each with the value of a column. -/
def byKey (records : List Fields) (key column : String) : List (Value × Value) :=
  records.map fun record =>
    (value (Entries.ofPairs record) key, value (Entries.ofPairs record) column)

/-- The assignments of a bulk update. -/
def settings (records : List Fields) (key : String) : List Symbol :=
  Symbol.separated ((Write.targets records key).map fun column =>
    Symbol.caseByKey key column (byKey records key column))

/-- What these read as. -/
def assignments (records : List Fields) (key : String) : List CaseAssignment :=
  (Write.targets records key).map fun column => .byKey key column (byKey records key column)

/-- The first record that has a key for which a backend takes the one of a row. -/
def recordOf? (records : List Fields) (key : String) (equal : Value → Value → Bool) (cells : Cells) :
    Option Fields :=
  records.find? fun record => (record.last? key).any (equal (cells key))

/-- Rows of the batch get the values of their record, and nothing else changes. -/
structure Changes (records : List Fields) (key : String) (equal : Value → Value → Bool)
    (filter : Prop) (before after : Cells) : Prop where
  absent : recordOf? records key equal before = none → after = before
  filtered : ¬ filter → after = before
  given : ∀ record, recordOf? records key equal before = some record → filter →
    ∀ column ∈ Write.targets records key, record.last? column = some (after column)
  kept : ∀ column ∉ Write.targets records key, after column = before column

/-- Arguments in order: for every column the key and the value of every record, the keys of all,
and then others. -/
structure Arranged (records : List Fields) (key : String) (others args : List Value) : Prop where
  keys : ∀ i j record column,
    records[i]? = some record → (Write.targets records key)[j]? = some column →
    args[2 * (j * records.length + i)]? = record.last? key
  values : ∀ i j record column,
    records[i]? = some record → (Write.targets records key)[j]? = some column →
    args[2 * (j * records.length + i) + 1]? = record.last? column
  listed : ∀ i record, records[i]? = some record →
    args[2 * (Write.targets records key).length * records.length + i]? = record.last? key
  behind : args.drop
    (2 * (Write.targets records key).length * records.length + records.length) = others

end Batch

namespace Query

variable {query : Query} {records : List Fields} {key : String}

/-- The key of a row is one of some values. -/
def keyIn (key : String) (keys : List Value) : Fragment :=
  ⟨key ++ " IN (" ++ Text.placeholders keys.length ++ ")", keys⟩

/-- The condition of a bulk update: the key is one of the batch, and what the builder asks for. -/
def rowFilter (query : Query) (key : String) (keys : List Value) : List Token :=
  .clause (keyIn key keys) ::
    if query.conditions.tokens = [] then []
    else .connector .and :: (.opening :: query.conditions.tokens ++ [.closing])

theorem isBlank_iff_tokens (conditions : Conditions) :
    conditions.isBlank = true ↔ conditions.tokens = [] := by
  rw [Conditions.isBlank_iff, ← Conditions.written_tokens]
  exact Predicate.written_eq_empty_iff
    (Predicate.visible_tokensFrom [] Predicate.visible_nil conditions)

theorem written_rowFilter (query : Query) (key : String) (keys : List Value) :
    written (query.rowFilter key keys) =
      key ++ " IN (" ++ Text.placeholders keys.length ++ ")" ++
        (if query.conditions.isBlank then "" else " AND (" ++ query.conditions.text ++ ")") := by
  have shown := isBlank_iff_tokens query.conditions
  unfold rowFilter
  by_cases blank : query.conditions.tokens = []
  · rw [if_pos blank, if_pos (shown.mpr blank)]
    rfl
  · have joint : " AND (" = " " ++ Connector.and.text ++ " " ++ "(" := by decide
    rw [if_neg blank, if_neg fun isBlank => blank (shown.mp isBlank), joint]
    simp only [List.cons_append, Predicate.written_cons, Predicate.written_append,
      Predicate.written_nil, Token.text, keyIn,
      Conditions.written_tokens, String.append_assoc, String.append_empty]

/-- Conditions that show text hold where the formula holds that they read as. -/
theorem holds_iff_of_reads {conditions : Conditions} {formula : Formula}
    (reads : Reads .alternatives conditions.tokens formula) (truth : Fragment → Prop) :
    conditions.Holds truth ↔ formula.Holds truth := by
  constructor
  · exact fun holds => holds formula reads
  · intro holds other again
    rwa [← reads_unique reads again]

/-- The condition reads as both: the key of the row is in the batch, and the conditions hold. -/
theorem reads_rowFilter (query : Query) (key : String) (keys : List Value) :
    ∃ condition, Reads .alternatives (query.rowFilter key keys) condition ∧
      ∀ truth, condition.Holds truth ↔ truth (keyIn key keys) ∧ query.conditions.Holds truth := by
  unfold rowFilter
  by_cases blank : query.conditions.tokens = []
  · refine ⟨.clause (keyIn key keys), ?_, fun truth => ?_⟩
    · rw [if_pos blank]
      exact .conjunction (.unit (.clause _))
    · have vacuous : query.conditions.Holds truth := fun formula reads =>
        absurd blank (tokens_ne_nil_of_reads reads)
      exact ⟨fun holds => ⟨holds, vacuous⟩, And.left⟩
  · obtain ⟨formula, reads⟩ := Conditions.reads_tokens blank
    refine ⟨.and (.clause (keyIn key keys)) (.group formula), ?_, fun truth => ?_⟩
    · rw [if_neg blank]
      exact .conjunction (.and (.unit (.clause _)) (.group reads))
    · rw [holds_iff_of_reads reads]
      rfl

/-- A batch with its key is accepted. -/
theorem bulkUpdateStatement?_isSome (table : query.table ≠ "") (sound : query.fault? = none)
    (keyed : Batch.Keyed records key) :
    ∃ statement, query.bulkUpdateStatement? records key = .ok (some statement) := by
  have target := requireTarget_of_sound table sound "bulk update"
  have filled : ¬ (records.map Entries.ofPairs).isEmpty = true := by simpa using keyed.filled
  have present : ¬ (!(Batch.columnsOf records).contains key) = true := by simpa using keyed.keyed
  have others : ¬ ((Batch.columnsOf records).filter (· ≠ key)).isEmpty = true := by
    simpa [Write.targets] using keyed.others
  rw [bulkUpdateStatement?, target, Batch.collect_of_alike keyed.alike]
  exact ⟨_, (if_neg filled).trans ((if_neg present).trans (if_neg others))⟩

theorem alike_of_collect {batch : Batch} (collected : Batch.collect records = .ok batch) :
    ∀ index, ¬ Batch.Misfits records index := by
  intro index misfits
  obtain ⟨_, _, _, _, refused⟩ := Batch.collect_of_misfits ⟨index, misfits⟩
  rw [refused] at collected
  cases collected

/-- Which bulk updates are accepted. -/
theorem bulkUpdate_accepted_iff :
    (∃ statement, query.bulkUpdateStatement? records key = .ok (some statement)) ↔
      query.table ≠ "" ∧ query.fault? = none ∧ Batch.Keyed records key := by
  refine ⟨?_, fun ⟨table, sound, keyed⟩ => bulkUpdateStatement?_isSome table sound keyed⟩
  rintro ⟨statement, rendered⟩
  obtain ⟨_, target, checked⟩ := Write.ok_of_bind rendered
  obtain ⟨batch, collected, built⟩ := Write.ok_of_bind checked
  obtain rfl := Batch.collect_eq_ok collected
  obtain ⟨table, sound⟩ := sound_of_requireTarget target
  refine ⟨table, sound, ?_⟩
  split at built
  · cases built
  · rename_i filled
    dsimp only at built
    split at built
    · cases built
    · rename_i present
      split at built
      · cases built
      · rename_i others
        exact ⟨by simpa [Batch.isEmpty] using filled, alike_of_collect collected,
          by simpa using present, by simpa [Write.targets] using others⟩

theorem written_settings (filled : records ≠ []) :
    Symbol.written (Batch.settings records key) =
      Text.commaList ((Write.targets records key).map fun column =>
        caseText key column (records.map Entries.ofPairs).length) := by
  have pairs (column : String) : Batch.byKey records key column ≠ [] := by
    simpa [Batch.byKey] using filled
  rw [Batch.settings, Symbol.written_separated, List.map_map]
  refine congrArg _ (List.map_congr_left fun column _ => ?_)
  rw [Function.comp_apply, Symbol.written_caseByKey key column (pairs column), Batch.byKey,
    List.length_map, List.length_map]

theorem args_settings (records : List Fields) (key : String) :
    (Batch.settings records key).flatMap Symbol.args =
      (Write.targets records key).flatMap fun column =>
        records.flatMap fun record =>
          [Batch.value (Entries.ofPairs record) key,
            Batch.value (Entries.ofPairs record) column] := by
  rw [Batch.settings, Symbol.args_separated, List.flatMap_map]
  simp only [Symbol.args_caseByKey, Batch.byKey, List.flatMap_map]

theorem bulkUpdateStatement?_eq (table : query.table ≠ "") (sound : query.fault? = none)
    (keyed : Batch.Keyed records key) : query.bulkUpdateStatement? records key =
      .ok (some ⟨"UPDATE " ++ query.table ++ " SET " ++
          Symbol.written (Batch.settings records key) ++ " WHERE " ++
          written (query.rowFilter key (Batch.column records key)),
        (Batch.settings records key).flatMap Symbol.args ++ Batch.column records key ++
          (if query.conditions.isBlank then [] else query.conditions.args)⟩) := by
  obtain ⟨statement, rendered⟩ := bulkUpdateStatement?_isSome table sound keyed
  obtain ⟨batch, collected, rfl⟩ := Write.bulkUpdateStatement_eq_ok rendered
  have listed : (records.map Entries.ofPairs).map (fun row => Batch.value row key) =
      Batch.column records key := List.map_map
  rw [rendered, Batch.collect_eq_ok collected, written_settings keyed.filled, args_settings,
    written_rowFilter]
  simp only [listed, List.flatMap_map, Write.targets, String.append_assoc]

end Query

namespace Batch

variable {records : List Fields} {key : String}

theorem mem_targets_iff {column : String} :
    column ∈ Write.targets records key ↔ column ∈ columnsOf records ∧ column ≠ key := by
  simp [Write.targets]

/-- What a record of a batch has for a column of the batch. -/
theorem Keyed.last?_eq (keyed : Keyed records key) {record : Fields} (member : record ∈ records)
    {column : String} (present : column ∈ columnsOf records) :
    record.last? column = some (value (Entries.ofPairs record) column) :=
  (value_ofPairs_eq_last? ((mem_columnsOf_iff keyed.alike member column).mp present)).symm

theorem Keyed.recordOf?_eq (keyed : Keyed records key) (equal : Value → Value → Bool)
    (cells : Cells) : recordOf? records key equal cells =
      records.find? fun record => equal (cells key) (value (Entries.ofPairs record) key) := by
  refine List.find?_congr fun record member => ?_
  rw [keyed.last?_eq member keyed.keyed]
  rfl

/-- The first branch for the key of a row is that of its record. -/
theorem Keyed.find?_byKey (keyed : Keyed records key) (equal : Value → Value → Bool)
    (cells : Cells) (column : String) :
    (byKey records key column).find? (fun row => equal (cells key) row.1) =
      (recordOf? records key equal cells).map fun record =>
        (value (Entries.ofPairs record) key, value (Entries.ofPairs record) column) := by
  rw [byKey, List.find?_map, keyed.recordOf?_eq]
  rfl

/-- The key of a row is one of the batch where some record has it. -/
theorem Keyed.any_column (keyed : Keyed records key) (equal : Value → Value → Bool)
    (cells : Cells) :
    (column records key).any (equal (cells key)) = (recordOf? records key equal cells).isSome := by
  rw [column, List.any_map, keyed.recordOf?_eq, List.isSome_find?]
  rfl

theorem Keyed.arranged (keyed : Keyed records key) (others : List Value) :
    Arranged records key others
      ((settings records key).flatMap Symbol.args ++ column records key ++ others) := by
  have pair : ∀ column : String, ∀ record ∈ records, ([value (Entries.ofPairs record) key,
      value (Entries.ofPairs record) column] : List Value).length = 2 := fun _ _ _ => rfl
  have wide : ∀ column ∈ Write.targets records key, (records.flatMap fun record =>
      [value (Entries.ofPairs record) key, value (Entries.ofPairs record) column]).length =
        records.length * 2 := fun column _ => length_flatMap_row (pair column)
  rw [Query.args_settings]
  have long := length_flatMap_row wide
  have listed : (column records key).length = records.length := List.length_map _
  have width : 2 * (Write.targets records key).length * records.length =
      (Write.targets records key).length * (records.length * 2) := by ring
  -- The place of a key or of a value: by the column, by the record, and which of both it is.
  have entry (i j which : Nat) (record : Fields) (column : String)
      (row : records[i]? = some record) (target : (Write.targets records key)[j]? = some column)
      (one : which < 2) :
      (((Write.targets records key).flatMap fun column => records.flatMap fun record =>
          [value (Entries.ofPairs record) key, value (Entries.ofPairs record) column]) ++
        Batch.column records key ++ others)[2 * (j * records.length + i) + which]? =
      [value (Entries.ofPairs record) key, value (Entries.ofPairs record) column][which]? := by
    obtain ⟨inRecords, _⟩ := List.getElem?_eq_some_iff.mp row
    obtain ⟨inTargets, _⟩ := List.getElem?_eq_some_iff.mp target
    have place : 2 * (j * records.length + i) + which =
        j * (records.length * 2) + (i * 2 + which) := by ring
    have inRow : i * 2 + which < records.length * 2 := by omega
    have before := Nat.mul_le_mul_right (records.length * 2) (Nat.succ_le_of_lt inTargets)
    rw [Nat.succ_mul] at before
    rw [place, List.append_assoc, List.getElem?_append_left (by omega),
      getElem?_flatMap_row wide target inRow, getElem?_flatMap_row (pair column) row one]
  refine ⟨?_, ?_, ?_, ?_⟩
  · intro i j record column row target
    rw [keyed.last?_eq (List.mem_of_getElem? row) keyed.keyed]
    exact entry i j 0 record column row target (by decide)
  · intro i j record column row target
    have present := (mem_targets_iff.mp (List.mem_of_getElem? target)).1
    rw [keyed.last?_eq (List.mem_of_getElem? row) present]
    exact entry i j 1 record column row target (by decide)
  · intro i record row
    obtain ⟨inRecords, _⟩ := List.getElem?_eq_some_iff.mp row
    rw [keyed.last?_eq (List.mem_of_getElem? row) keyed.keyed, width, List.append_assoc,
      List.getElem?_append_right (by omega), long, Nat.add_sub_cancel_left,
      List.getElem?_append_left (by omega), column, List.getElem?_map, row]
    rfl
  · rw [width]
    exact List.drop_left' (by rw [List.length_append, long, listed])

/-- A row behind the update, by what the assignments and the condition read as. -/
structure Updates (equal : Value → Value → Bool) (truth : Fragment → Prop)
    (assignments : List CaseAssignment) (condition : Formula) (before after : Cells) : Prop where
  met : condition.Holds truth → after = before.assigned equal assignments
  unmet : ¬ condition.Holds truth → after = before

/-- The row of a record gets its values, and every other row stays as it is. -/
theorem Keyed.changes (keyed : Keyed records key) {equal : Value → Value → Bool}
    {truth : Fragment → Prop} {filter : Prop} {condition : Formula} {before after : Cells}
    (both : condition.Holds truth ↔ truth (Query.keyIn key (column records key)) ∧ filter)
    (within : truth (Query.keyIn key (column records key)) ↔
      (Query.keyIn key (column records key)).args.any (equal (before key)) = true)
    (updates : Updates equal truth (assignments records key) condition before after) :
    Changes records key equal filter before after := by
  have found : truth (Query.keyIn key (column records key)) ↔
      (recordOf? records key equal before).isSome = true := by
    rw [within, ← keyed.any_column]
    rfl
  refine ⟨?_, ?_, ?_, ?_⟩
  · intro absent
    refine updates.unmet fun holds => ?_
    have some := found.mp (both.mp holds).1
    rw [absent] at some
    cases some
  · exact fun unfiltered => updates.unmet fun holds => unfiltered (both.mp holds).2
  · intro record present filtered column target
    have holds := both.mpr ⟨found.mpr (by rw [present]; rfl), filtered⟩
    have member : record ∈ records := List.mem_of_find?_eq_some present
    rw [updates.met holds, assignments, Cells.assigned_byKey, if_pos target, keyed.find?_byKey,
      present, keyed.last?_eq member (mem_targets_iff.mp target).1]
    rfl
  · intro column other
    by_cases holds : condition.Holds truth
    · rw [updates.met holds, assignments, Cells.assigned_byKey, if_neg other]
    · rw [updates.unmet holds]

end Batch

namespace Query

/-- A bulk update, with what its assignments and its condition read as. -/
structure UpdatesBatch (query : Query) (records : List Fields) (key : String)
    (statement : Statement) (assignments : List CaseAssignment) (condition : Formula) : Prop where
  text : statement.sql = "UPDATE " ++ query.table ++ " SET " ++
    Symbol.written (Batch.settings records key) ++ " WHERE " ++
    written (query.rowFilter key (Batch.column records key))
  sets : ∀ read, ReadsAssignments (Batch.settings records key) read ↔ read = assignments
  filters : ∀ read, Reads .alternatives (query.rowFilter key (Batch.column records key)) read ↔
    read = condition
  /-- The columns that are set are those of every record but the key, in order. -/
  ordered : (assignments.map CaseAssignment.column).Pairwise (· < ·)
  targets : ∀ record ∈ records, ∀ column,
    column ∈ assignments.map CaseAssignment.column ↔ column ∈ record.columns ∧ column ≠ key
  /-- The condition asks for a key of the batch, and for what the builder asks for as one unit. -/
  both : ∀ truth, condition.Holds truth →
    truth (keyIn key (Batch.column records key)) ∧ query.conditions.Holds truth
  /-- Where IN is read as it is meant, the rows of the batch change as they should. -/
  changes : ∀ equal truth before after,
    (truth (keyIn key (Batch.column records key)) ↔
      (keyIn key (Batch.column records key)).args.any (equal (before key)) = true) →
    Batch.Updates equal truth assignments condition before after →
    Batch.Changes records key equal (query.conditions.Holds truth) before after
  arranged : Batch.Arranged records key
    (if query.conditions.isBlank then [] else query.conditions.args) statement.args
  /-- Whatever is taken for quoted text: where every clause closes its parentheses, no clause ends
  the one that is opened before the conditions. -/
  enclosed : ∀ (σ : Type) (quoting : Quoting σ),
    (∀ leaf ∈ query.conditions.leaves, Closed quoting leaf.sql) →
    Closed quoting query.conditions.text

/-- A bulk update changes the rows of its batch and no others. It is accepted for records with the
same columns, the key and at least one other among them, and its statement is sent once. -/
theorem bulkUpdate_changes_batch_rows (query : Query) (records : List Fields) (key : String)
    (table : query.table ≠ "") (sound : query.fault? = none) (keyed : Batch.Keyed records key) :
    ∃ statement assignments condition,
      query.bulkUpdateStatement? records key = .ok (some statement) ∧
      query.UpdatesBatch records key statement assignments condition ∧
      ∀ (σ : Type) [Backend σ] (context : Context) (world : World (Journaled σ)),
        query.connection.Sent context statement.sql statement.args world
          (query.bulkUpdate context records key world) := by
  obtain ⟨condition, reads, both⟩ := reads_rowFilter query key (Batch.column records key)
  have columns : (Batch.assignments records key).map CaseAssignment.column =
      Write.targets records key := by
    rw [Batch.assignments, List.map_map]
    exact List.map_id _
  have rendered := bulkUpdateStatement?_eq table sound keyed
  refine ⟨_, Batch.assignments records key, condition, rendered, ?_, ?_⟩
  · exact {
      text := rfl
      sets := by
        have sets := reads_separated key (Batch.byKey records key) keyed.others
        exact fun read => ⟨fun again => again.unique sets, fun same => same ▸ sets⟩
      filters := fun read => ⟨fun again => reads_unique again reads, fun same => same ▸ reads⟩
      ordered := by
        rw [columns]
        exact (Batch.sorted_columnsOf records).filter _
      targets := by
        intro record member column
        rw [columns, Batch.mem_targets_iff, Batch.mem_columnsOf_iff keyed.alike member]
      both := fun truth => (both truth).mp
      changes := fun equal truth before after within updates =>
        keyed.changes (both truth) within updates
      arranged := keyed.arranged _
      enclosed := fun σ quoting => Conditions.closed_text }
  · intro σ _ context world
    unfold bulkUpdate
    rw [rendered]
    exact (query.connection.sent_exec context _ _ world).bind fun _ => Task.silent_pure _

theorem bulkUpdate_changes_batch_rows_products :
    ∃ statement assignments condition,
      ((Query.new ⟨.pool, .mySql⟩ "products").orWhere "archived = ?" [.bool false]
        |>.orWhere "stock > ?" [.int 3]).bulkUpdateStatement?
          [[("price", .int 10), ("id", .int 1)], [("id", .int 1), ("price", .int 20)]] "id" =
        .ok (some statement) ∧
      ((Query.new ⟨.pool, .mySql⟩ "products").orWhere "archived = ?" [.bool false]
        |>.orWhere "stock > ?" [.int 3]).UpdatesBatch
          [[("price", .int 10), ("id", .int 1)], [("id", .int 1), ("price", .int 20)]] "id"
          statement assignments condition := by
  have keyed : Batch.Keyed
      [[("price", .int 10), ("id", .int 1)], [("id", .int 1), ("price", .int 20)]] "id" :=
    ⟨by decide, Batch.forall_not_misfits_iff.mpr (by decide), by decide, by decide⟩
  obtain ⟨statement, assignments, condition, rendered, updates, _⟩ :=
    bulkUpdate_changes_batch_rows ((Query.new ⟨.pool, .mySql⟩ "products").orWhere "archived = ?"
      [.bool false] |>.orWhere "stock > ?" [.int 3]) _ _ (by decide) (by decide) keyed
  exact ⟨statement, assignments, condition, rendered, updates⟩

/-- Conditions that show no text hold an argument, and the statement has none for it. -/
theorem blank_conditions_add_no_argument :
    ((Query.new ⟨.pool, .mySql⟩ "t").andWhere "" [.int 5]).bulkUpdateStatement?
        [[("age", .int 30), ("id", .int 1)]] "id" =
      .ok (some ⟨"UPDATE t SET age = CASE id WHEN ? THEN ? ELSE age END WHERE id IN (?)",
        [.int 1, .int 30, .int 1]⟩) ∧
    ((Query.new ⟨.pool, .mySql⟩ "t").andWhere "" [.int 5]).conditions.args = [.int 5] :=
  ⟨by decide, by decide⟩

end Query
end FluentSql
