import FluentSql.Proofs.Backend.Journal
import FluentSql.Proofs.Placeholder.Assignments

/-! Every write sends at most one statement, with its placeholders and arguments in lockstep: what
it assigns comes first, and the arguments of the conditions follow in their order. -/
namespace FluentSql

open Placeholder

namespace Write

variable {query : Query} {statement : Statement}

theorem ok_of_bind {first : Except Error α} {next : α → Except Error β} {result : β}
    (done : (first >>= next) = .ok result) :
    ∃ value, first = .ok value ∧ next value = .ok result := by
  cases first with
  | error error => cases done
  | ok value => exact ⟨value, rfl, done⟩

theorem some_of_ok {result : Except Error Statement} (statement : Statement)
    (built : result = .ok statement) : some <$> result = .ok (some statement) := by
  rw [built]
  rfl

theorem ok_of_some {result : Except Error Statement}
    (rendered : some <$> result = .ok (some statement)) : result = .ok statement := by
  cases result with
  | error error => cases rendered
  | ok built => rw [Option.some.inj (Except.ok.inj rendered)]

theorem createStatement_eq_ok {fields : Fields}
    (rendered : query.createStatement fields = .ok statement) :
    statement = ⟨query.returningId (query.insertSql fields.columns 1), fields.values⟩ := by
  obtain ⟨_, _, checked⟩ := ok_of_bind rendered
  split at checked
  · cases checked
  · exact (Except.ok.inj checked).symm

theorem batchInsertStatement_eq_ok {records : List Fields}
    (rendered : query.batchInsertStatement? records = .ok (some statement)) :
    ∃ batch, Batch.collect records = .ok batch ∧ statement = query.insertBatch batch := by
  obtain ⟨_, _, checked⟩ := ok_of_bind rendered
  obtain ⟨batch, collected, built⟩ := ok_of_bind checked
  refine ⟨batch, collected, ?_⟩
  have chosen := Except.ok.inj built
  split at chosen
  · cases chosen
  · exact (Option.some.inj chosen).symm

theorem bulkInsertStatement_eq_ok {records : List Fields}
    (rendered : query.bulkInsertStatement? records = .ok (some statement)) :
    ∃ batch, Batch.collect records = .ok batch ∧
      statement =
        ⟨query.returningId (query.insertBatch batch).sql, (query.insertBatch batch).args⟩ := by
  obtain ⟨_, _, checked⟩ := ok_of_bind rendered
  obtain ⟨batch, collected, built⟩ := ok_of_bind checked
  refine ⟨batch, collected, ?_⟩
  have chosen := Except.ok.inj built
  split at chosen
  · cases chosen
  · exact (Option.some.inj chosen).symm

theorem updateStatement_eq_ok {fields : Fields} {names : List String}
    (rendered : query.updateStatement fields names = .ok statement) :
    ∃ sql args, compileRecord (Text.commaList ((updated fields names).map namedAssignment)) fields =
      .ok (sql, args) ∧ statement = query.updateWith sql args := by
  obtain ⟨_, _, checked⟩ := ok_of_bind rendered
  dsimp only at checked
  by_cases empty : (updated fields names).isEmpty = true
  · exact absurd ((if_pos empty).symm.trans checked) (by rintro ⟨⟩)
  · obtain ⟨⟨sql, args⟩, compiled, built⟩ := ok_of_bind ((if_neg empty).symm.trans checked)
    exact ⟨sql, args, compiled, (Except.ok.inj built).symm⟩

theorem updateMapStatement_eq_ok {data : Entries Value}
    (rendered : query.updateMapStatement data = .ok statement) :
    statement = query.updateWith (Text.commaList ((Fields.columns data).map assignment))
      (Fields.values data) := by
  obtain ⟨_, _, checked⟩ := ok_of_bind rendered
  split at checked
  · cases checked
  · rw [← Except.ok.inj checked, Fields.columns, List.map_map]
    rfl

theorem bulkUpdateStatement_eq_ok {records : List Fields} {key : String}
    (rendered : query.bulkUpdateStatement? records key = .ok (some statement)) :
    ∃ batch, Batch.collect records = .ok batch ∧
      statement = ⟨"UPDATE " ++ query.table ++ " SET " ++
          Text.commaList ((batch.columns.filter (· ≠ key)).map fun column =>
            Query.caseText key column batch.rows.length) ++ " WHERE " ++ key ++
          " IN (" ++
          Text.placeholders (batch.rows.map fun row => Batch.value row key).length ++ ")" ++
          (if query.conditions.isBlank then "" else " AND (" ++ query.conditions.text ++ ")"),
        ((batch.columns.filter (· ≠ key)).flatMap fun column =>
          batch.rows.flatMap fun row => [Batch.value row key, Batch.value row column]) ++
          (batch.rows.map fun row => Batch.value row key) ++
          (if query.conditions.isBlank then [] else query.conditions.args)⟩ := by
  obtain ⟨_, _, checked⟩ := ok_of_bind rendered
  obtain ⟨batch, collected, built⟩ := ok_of_bind checked
  refine ⟨batch, collected, ?_⟩
  split at built
  · cases built
  · dsimp only at built
    split at built
    · cases built
    · split at built
      · cases built
      · exact (Option.some.inj (Except.ok.inj built)).symm

theorem stepStatement_eq_ok {column operator : String} {amount : Value}
    (rendered : query.stepStatement column operator amount = .ok statement) :
    statement =
      query.updateWith (column ++ " = " ++ column ++ " " ++ operator ++ " ?") [amount] := by
  obtain ⟨_, _, built⟩ := ok_of_bind rendered
  exact (Except.ok.inj built).symm

theorem deleteStatement_eq_ok (rendered : query.deleteStatement = .ok statement) :
    statement = ⟨"DELETE FROM " ++ query.table ++ query.whereClause, query.conditions.args⟩ := by
  obtain ⟨_, _, checked⟩ := ok_of_bind rendered
  split at checked
  · cases checked
  · exact (Except.ok.inj checked).symm

/-- A statement that first assigns and then filters: the values of the assignments, each at the
placeholder of its column, and behind them the arguments of the conditions. -/
def InLockstep (call : Write) (query : Query) (statement : Statement) : Prop :=
  ∃ head tail, statement.sql = head ++ tail ∧
    statement.args = call.assigned ++ call.filters query ∧
    ∀ write : Value → String, (∀ value, write value ≠ "") →
      Bound write ⟨head, call.assigned⟩ (call.assigning write query) ∧
      Bound write ⟨tail, call.filters query⟩ (call.filtering write query) ∧
      Bound write statement (call.assigning write query ++ call.filtering write query)

theorem inLockstep_of_fills {call : Write} {head tail : String} {assigned filters : List Value}
    (values : assigned = call.assigned) (conditions : filters = call.filters query)
    (front : ∀ write, Fills write head call.assigned (call.assigning write query))
    (behind : ∀ write : Value → String, (∀ value, write value ≠ "") →
      Fills write tail (call.filters query) (call.filtering write query)) :
    call.InLockstep query ⟨head ++ tail, assigned ++ filters⟩ := by
  subst values conditions
  refine ⟨head, tail, rfl, rfl, ?_⟩
  intro write visible
  have first := front write
  have rest := behind write visible
  exact ⟨bound_of_fills first, bound_of_fills rest, bound_of_fills (first.append rest)⟩

/-- An insert has nothing behind its values. -/
theorem inLockstep_of_insert {call : Write} {sql : String} {args : List Value}
    (values : args = call.assigned) (none : call.filters query = [])
    (silent : ∀ write, call.filtering write query = "")
    (front : ∀ write, Fills write sql call.assigned (call.assigning write query)) :
    call.InLockstep query ⟨sql, args⟩ := by
  have behind : ∀ write : Value → String, (∀ value, write value ≠ "") →
      Fills write "" (call.filters query) (call.filtering write query) := by
    intro write _
    rw [none, silent]
    exact inert_empty.fills write
  simpa using inLockstep_of_fills values none.symm front behind

theorem identifiers_columnsOf {records : List Fields} (named : ∀ fields ∈ records, fields.Named) :
    ∀ column ∈ Batch.columnsOf records, Identifier column := by
  intro column member
  cases records with
  | nil => cases member
  | cons first rest =>
    exact (named first List.mem_cons_self).identifiers column (Entries.mem_keys_ofPairs member)

section Kinds

variable (table : Identifier query.table)
include table

theorem inLockstep_create {fields : Fields} (named : fields.Named)
    (rendered : query.createStatement fields = .ok statement) :
    (Write.create fields).InLockstep query statement := by
  rw [createStatement_eq_ok rendered]
  refine inLockstep_of_insert (fields.values_eq_map named.distinct) rfl (fun _ => rfl) ?_
  intro write
  have inert := fun column member => (named.identifiers column member).inert
  have insert := fills_insertion write table.inert inert [fields]
  have values : ([fields].flatMap fun record => (Fields.columns fields).map (Batch.value record)) =
      (Write.create fields).assigned := by simp [assigned]
  rw [values] at insert
  exact fills_returningId query insert

theorem inLockstep_batchInsert {records : List Fields} (named : ∀ fields ∈ records, fields.Named)
    (rendered : query.batchInsertStatement? records = .ok (some statement)) :
    (Write.batchInsert records).InLockstep query statement := by
  obtain ⟨batch, collected, rfl⟩ := batchInsertStatement_eq_ok rendered
  rw [Batch.collect_eq_ok collected, Query.insertBatch, List.length_map]
  have distinct := fun fields member => (named fields member).distinct
  have values := Batch.flatMap_rows_eq distinct fun value => (Batch.columnsOf records).map value
  refine inLockstep_of_insert values rfl (fun _ => rfl) ?_
  intro write
  have inert := fun column member => (identifiers_columnsOf named column member).inert
  exact fills_insertion write table.inert inert records

theorem inLockstep_bulkInsert {records : List Fields} (named : ∀ fields ∈ records, fields.Named)
    (rendered : query.bulkInsertStatement? records = .ok (some statement)) :
    (Write.bulkInsert records).InLockstep query statement := by
  obtain ⟨batch, collected, rfl⟩ := bulkInsertStatement_eq_ok rendered
  rw [Batch.collect_eq_ok collected, Query.insertBatch, List.length_map]
  have distinct := fun fields member => (named fields member).distinct
  have values := Batch.flatMap_rows_eq distinct fun value => (Batch.columnsOf records).map value
  refine inLockstep_of_insert values rfl (fun _ => rfl) ?_
  intro write
  have inert := fun column member => (identifiers_columnsOf named column member).inert
  exact fills_returningId query (fills_insertion write table.inert inert records)

theorem inert_update : Inert ("UPDATE " ++ query.table ++ " SET ") :=
  (Inert.append (by decide) table.inert).append (by decide)

theorem fills_assigning_bulkUpdate (write : Value → String) {records : List Fields} {key : String}
    (identifier : Identifier key) (columns : ∀ column ∈ targets records key, Inert column) :
    Fills write
      ("UPDATE " ++ query.table ++ " SET " ++
        Text.commaList ((targets records key).map fun column =>
          Query.caseText key column records.length) ++ " WHERE " ++ key ++ " IN (" ++
        Text.placeholders records.length ++ ")")
      (bulkUpdate records key).assigned ((bulkUpdate records key).assigning write query) := by
  have cases := fills_join (fun column => Query.caseText key column records.length)
    (fun column => records.flatMap fun fields =>
      [Batch.value fields key, Batch.value fields column])
    (Write.cases write records key) inert_comma (targets records key)
    fun column member => fills_cases write identifier.inert (columns column member) records
  have keys : Fills write (Text.placeholders records.length)
      (records.map fun fields => Batch.value fields key)
      (Text.commaList (records.map fun fields => write (Batch.value fields key))) := by
    simpa only [List.length_map, List.map_map, Function.comp_def] using
      fills_placeholders write (records.map fun fields => Batch.value fields key)
  have choice : Inert (" WHERE " ++ key ++ " IN (") :=
    (Inert.append (by decide) identifier.inert).append (by decide)
  have front := ((cases.after (inert_update table)).before choice).append keys
  have whole := front.before inert_close
  simpa only [assigning_bulkUpdate, assigned, Text.commaList, String.append_assoc] using whole

variable (paired : query.conditions.Paired)
include paired

/-- An update whose conditions follow what it sets. -/
theorem inLockstep_of_updateWith {call : Write} {sql : String} {args : List Value}
    (values : args = call.assigned) (conditioned : call.filters query =
      query.conditions.leaves.flatMap Fragment.args)
    (filtered : ∀ write, call.filtering write query = (query.inlined write).whereClause)
    (front : ∀ write, ∃ shown,
      call.assigning write query = "UPDATE " ++ query.table ++ " SET " ++ shown ∧
      Fills write sql call.assigned shown) :
    call.InLockstep query (query.updateWith sql args) := by
  have conditions := query.conditions.args_eq_flatMap_leaves
  refine inLockstep_of_fills values (conditions.trans conditioned.symm) ?_ ?_
  · intro write
    obtain ⟨shown, assigning, fills⟩ := front write
    rw [assigning]
    exact fills.after (inert_update table)
  · intro write visible
    rw [conditioned, ← conditions, filtered]
    exact Query.fills_whereClause paired visible

theorem inLockstep_update {fields : Fields} {names : List String} (named : fields.Named)
    (identifiers : ∀ name ∈ names, Identifier name)
    (rendered : query.updateStatement fields names = .ok statement) :
    (Write.update fields names).InLockstep query statement := by
  obtain ⟨sql, args, compiled, rfl⟩ := updateStatement_eq_ok rendered
  have columns : ∀ column ∈ updated fields names, Identifier column := by
    intro column member
    unfold updated at member
    split at member
    · exact named.identifiers column member
    · exact identifiers column member
  obtain ⟨rfl, found⟩ := compileRecord_assignments columns compiled
  have values : args = (updated fields names).map (Batch.value fields) := by
    have held := congrArg (List.map fun value? => value?.getD Value.null) found
    have looked : Batch.value fields = fun column => (Entries.find? fields column).getD .null := rfl
    simpa [looked, Function.comp_def] using held.symm
  refine inLockstep_of_updateWith table paired values rfl (fun _ => rfl) ?_
  intro write
  exact ⟨_, rfl, fills_assignments write columns fields⟩

theorem inLockstep_updateMap {data : Entries Value} (named : Fields.Named data)
    (rendered : query.updateMapStatement data = .ok statement) :
    (Write.updateMap data).InLockstep query statement := by
  rw [updateMapStatement_eq_ok rendered]
  have values := Fields.values_eq_map data named.distinct
  refine inLockstep_of_updateWith table paired values rfl (fun _ => rfl) ?_
  intro write
  exact ⟨_, rfl, fills_assignments write named.identifiers data⟩

theorem inLockstep_increment {column : String} {amount : Value} (identifier : Identifier column)
    (rendered : query.stepStatement column "+" amount = .ok statement) :
    (Write.increment column amount).InLockstep query statement := by
  rw [stepStatement_eq_ok rendered]
  refine inLockstep_of_updateWith table paired rfl rfl (fun _ => rfl) ?_
  intro write
  exact ⟨_, rfl, fills_stepped write identifier.inert (by decide) amount⟩

theorem inLockstep_decrement {column : String} {amount : Value} (identifier : Identifier column)
    (rendered : query.stepStatement column "-" amount = .ok statement) :
    (Write.decrement column amount).InLockstep query statement := by
  rw [stepStatement_eq_ok rendered]
  refine inLockstep_of_updateWith table paired rfl rfl (fun _ => rfl) ?_
  intro write
  exact ⟨_, rfl, fills_stepped write identifier.inert (by decide) amount⟩

theorem inLockstep_bulkUpdate {records : List Fields} {key : String}
    (named : ∀ fields ∈ records, fields.Named) (identifier : Identifier key)
    (rendered : query.bulkUpdateStatement? records key = .ok (some statement)) :
    (Write.bulkUpdate records key).InLockstep query statement := by
  obtain ⟨batch, collected, rfl⟩ := bulkUpdateStatement_eq_ok rendered
  have distinct := fun fields member => (named fields member).distinct
  have columns : ∀ column ∈ targets records key, Inert column := by
    intro column member
    exact (identifiers_columnsOf named column (List.mem_filter.mp member).1).inert
  have conditions := query.conditions.args_eq_flatMap_leaves
  have filters : (if query.conditions.isBlank then [] else query.conditions.args) =
      (Write.bulkUpdate records key).filters query := by
    split
    · rename_i blank
      rw [paired.args_of_isBlank blank] at conditions
      exact conditions
    · exact conditions
  rw [Batch.collect_eq_ok collected, filters]
  refine inLockstep_of_fills ?_ rfl ?_ ?_
  · have keyed := Batch.map_rows_eq distinct fun value => value key
    have moved (column : String) :=
      Batch.flatMap_rows_eq distinct fun value => [value key, value column]
    simp only [keyed, moved]
    rfl
  · intro write
    have front := fills_assigning_bulkUpdate table write identifier columns
    simpa only [targets, List.length_map] using front
  · intro write visible
    have text := paired.fills_text visible
    have opening : Inert " AND (" := by decide
    rw [conditions] at text
    simp only [Write.filters, filtering]
    split
    · rename_i blank
      rw [← conditions, paired.args_of_isBlank blank]
      exact inert_empty.fills write
    · exact (text.after opening).before inert_close

theorem inLockstep_delete (rendered : query.deleteStatement = .ok statement) :
    Write.delete.InLockstep query statement := by
  rw [deleteStatement_eq_ok rendered]
  have conditions := query.conditions.args_eq_flatMap_leaves
  refine inLockstep_of_fills rfl conditions ?_ ?_
  · intro write
    have opening : Inert "DELETE FROM " := by decide
    exact Inert.fills (opening.append table.inert) write
  · intro write visible
    have filtered := Query.fills_whereClause paired visible
    rw [conditions] at filtered
    exact filtered

end Kinds

theorem inLockstep (call : Write) (table : Identifier query.table) (named : call.Named)
    (paired : query.conditions.Paired) (rendered : call.statement? query = .ok (some statement)) :
    call.InLockstep query statement := by
  cases call with
  | create fields => exact inLockstep_create table named (ok_of_some rendered)
  | createMap data => exact inLockstep_create table named (ok_of_some rendered)
  | batchInsert records => exact inLockstep_batchInsert table named rendered
  | bulkInsert records => exact inLockstep_bulkInsert table named rendered
  | update fields names =>
    exact inLockstep_update table paired named.1 named.2 (ok_of_some rendered)
  | updateMap data => exact inLockstep_updateMap table paired named (ok_of_some rendered)
  | bulkUpdate records key => exact inLockstep_bulkUpdate table paired named.1 named.2 rendered
  | increment column amount => exact inLockstep_increment table paired named (ok_of_some rendered)
  | decrement column amount => exact inLockstep_decrement table paired named (ok_of_some rendered)
  | delete => exact inLockstep_delete table paired (ok_of_some rendered)

theorem silent_lastInsertId {σ : Type} (result : WriteResult) :
    (Query.lastInsertId result : Task (Journaled σ) Int64).Silent := by
  unfold Query.lastInsertId
  split
  · exact Task.silent_pure _
  · exact Task.silent_fail _

section Dispatch

variable {σ : Type} [Backend σ]

/-- Run a write, whatever it gives back. -/
def run (query : Query) (context : Context) : Write → Task σ Unit
  | .create fields => (fun _ => ()) <$> query.create context fields
  | .createMap data => (fun _ => ()) <$> query.create context data
  | .batchInsert records => (fun _ => ()) <$> query.batchInsert context records
  | .bulkInsert records => (fun _ => ()) <$> query.bulkInsert context records
  | .update fields names => (fun _ => ()) <$> query.update context fields names
  | .updateMap data => (fun _ => ()) <$> query.updateMap context data
  | .bulkUpdate records key => (fun _ => ()) <$> query.bulkUpdate context records key
  | .increment column amount => (fun _ => ()) <$> query.increment context column amount
  | .decrement column amount => (fun _ => ()) <$> query.decrement context column amount
  | .delete => (fun _ => ()) <$> query.delete context

/-- Nothing is sent, or the one statement of the write in the form of the dialect. -/
def Dispatches (call : Write) (query : Query) (sent : List BackendCall) : Prop :=
  sent = [] ∨ ∃ statement, call.statement? query = .ok (some statement) ∧
    sent = [.statement query.connection.session? (query.dialect.rebind statement.sql)
      statement.args]

variable {call : Write} {context : Context}

theorem dispatches_of_sends (rendered : call.statement? query = .ok (some statement))
    (sent : List BackendCall)
    (sends : Connection.Sends query.connection.session? (query.dialect.rebind statement.sql)
      statement.args sent) : call.Dispatches query sent := by
  rcases sends with none | once
  · exact Or.inl none
  · exact Or.inr ⟨statement, rendered, once⟩

theorem emits_exec (rendered : call.statement? query = .ok (some statement)) :
    (query.exec context statement : Task (Journaled σ) WriteResult).Emits
      (call.Dispatches query) :=
  (Connection.emits_exec query.connection context statement.sql statement.args).mono
    (dispatches_of_sends rendered)

theorem emits_affected (call : Write) {result : Except Error Statement}
    (rendered : ∀ statement, result = .ok statement →
      call.statement? query = .ok (some statement)) :
    (query.affected context result : Task (Journaled σ) UInt64).Emits (call.Dispatches query) := by
  refine Task.emits_ofExcept_bind ?_ (Or.inl rfl)
  intro statement built
  exact (emits_exec (rendered statement built)).bind fun _ => Task.silent_pure _

theorem emits_create (call : Write) {fields : Fields}
    (rendered : ∀ statement, query.createStatement fields = .ok statement →
      call.statement? query = .ok (some statement)) :
    (query.create context fields : Task (Journaled σ) Int64).Emits (call.Dispatches query) := by
  refine Task.emits_ofExcept_bind ?_ (Or.inl rfl)
  intro statement built
  have shown := rendered statement built
  split
  · have asked := @Connection.emits_get σ _ query.connection context statement.sql statement.args
    refine (asked.mono (dispatches_of_sends shown)).bind ?_
    intro row?
    split
    · exact Task.silent_ofExcept _
    · exact Task.silent_fail _
  · exact (emits_exec shown).bind silent_lastInsertId

theorem emits_batchInsert (records : List Fields) :
    (query.batchInsert context records : Task (Journaled σ) UInt64).Emits
      ((Write.batchInsert records).Dispatches query) := by
  refine Task.emits_ofExcept_bind ?_ (Or.inl rfl)
  intro statement? built
  split
  · refine emits_affected (.batchInsert records) ?_
    intro statement same
    rw [← Except.ok.inj same]
    exact built
  · exact (Task.silent_pure _).emits (Or.inl rfl)

theorem emits_bulkInsert (records : List Fields) :
    (query.bulkInsert context records : Task (Journaled σ) (List Int64)).Emits
      ((Write.bulkInsert records).Dispatches query) := by
  refine Task.emits_ofExcept_bind ?_ (Or.inl rfl)
  intro statement? built
  split
  · exact (Task.silent_pure _).emits (Or.inl rfl)
  · rename_i statement
    have rendered : (Write.bulkInsert records).statement? query = .ok (some statement) := built
    split
    · have asked := @Connection.emits_select σ _ query.connection context statement.sql
        statement.args
      exact (asked.mono (dispatches_of_sends rendered)).bind fun _ => Task.silent_ofExcept _
    · refine (emits_exec rendered).bind ?_
      intro result
      refine (silent_lastInsertId result).bind ?_
      intro id
      exact (Task.silent_report _).bind fun _ => Task.silent_pure _

theorem emits_bulkUpdate (records : List Fields) (key : String) :
    (query.bulkUpdate context records key : Task (Journaled σ) UInt64).Emits
      ((Write.bulkUpdate records key).Dispatches query) := by
  refine Task.emits_ofExcept_bind ?_ (Or.inl rfl)
  intro statement? built
  split
  · refine emits_affected (.bulkUpdate records key) ?_
    intro statement same
    rw [← Except.ok.inj same]
    exact built
  · exact (Task.silent_pure _).emits (Or.inl rfl)

/-- Every write sends at most its own statement. -/
theorem emits_run (call : Write) (query : Query) (context : Context) :
    (call.run query context : Task (Journaled σ) Unit).Emits (call.Dispatches query) := by
  have silent {α : Type} (_ : α) : (pure () : Task (Journaled σ) Unit).Silent :=
    Task.silent_pure ()
  cases call with
  | create fields => exact (emits_create (.create fields) some_of_ok).bind silent
  | createMap data => exact (emits_create (.createMap data) some_of_ok).bind silent
  | batchInsert records => exact (emits_batchInsert records).bind silent
  | bulkInsert records => exact (emits_bulkInsert records).bind silent
  | bulkUpdate records key => exact (emits_bulkUpdate records key).bind silent
  | update fields names => exact (emits_affected (.update fields names) some_of_ok).bind silent
  | updateMap data => exact (emits_affected (.updateMap data) some_of_ok).bind silent
  | increment column amount =>
    exact (emits_affected (.increment column amount) some_of_ok).bind silent
  | decrement column amount =>
    exact (emits_affected (.decrement column amount) some_of_ok).bind silent
  | delete => exact (emits_affected .delete some_of_ok).bind silent

end Dispatch

/-- Writes keep placeholders and arguments in lockstep, for every record and every condition tree:
what a write sends is at most one statement, and it has every value that it assigns at the
placeholder of its own column, before the arguments of the conditions in their order. -/
theorem writes_in_lockstep (call : Write) (query : Query) (table : Identifier query.table)
    (named : call.Named) (paired : query.conditions.Paired) :
    (∀ statement, call.statement? query = .ok (some statement) →
      call.InLockstep query statement) ∧
    ∀ (σ : Type) [Backend σ] (context : Context) (world : World (Journaled σ)),
      ∃ sent, (call.run query context world).2.backend.calls = world.backend.calls ++ sent ∧
        (sent = [] ∨ ∃ statement, call.statement? query = .ok (some statement) ∧
          sent = [.statement query.connection.session? (query.dialect.rebind statement.sql)
            statement.args] ∧
          call.InLockstep query statement) := by
  have lockstep (statement : Statement)
      (rendered : call.statement? query = .ok (some statement)) :=
    inLockstep call table named paired rendered
  refine ⟨lockstep, ?_⟩
  intro σ _ context world
  obtain ⟨sent, calls, dispatched⟩ := emits_run call query context world
  refine ⟨sent, calls, ?_⟩
  rcases dispatched with none | ⟨statement, rendered, once⟩
  · exact Or.inl none
  · exact Or.inr ⟨statement, rendered, once, lockstep statement rendered⟩

theorem writes_in_lockstep_bulkUpdate :
    (Write.bulkUpdate [[("id", .int 1), ("age", .int 30)], [("age", .int 40), ("id", .int 2)]]
      "id").InLockstep
      ((Query.new ⟨.pool, .mySql⟩ "users").andWhere "note <> '?' AND team = ?" [.int 7])
      ⟨"UPDATE users SET age = CASE id WHEN ? THEN ? WHEN ? THEN ? ELSE age END " ++
        "WHERE id IN (?, ?) AND (note <> '?' AND team = ?)",
        [.int 1, .int 30, .int 2, .int 40, .int 1, .int 2, .int 7]⟩ := by
  have named : (Write.bulkUpdate [[("id", .int 1), ("age", .int 30)],
      [("age", .int 40), ("id", .int 2)]] "id").Named := ⟨by decide, by decide⟩
  exact (writes_in_lockstep _ _ (by decide) named (by decide)).1 _ rfl

end Write
end FluentSql
