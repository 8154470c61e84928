import FluentSql.Backend.Recorder
import FluentSql.Proofs.Query.Faults
import FluentSql.Proofs.Task
import FluentSql.Query.Reads
import FluentSql.Query.Writes

/-! The operations that a builder ends in. One with a construction error hands it on before anything
else is looked at: nothing is executed, and no cache is asked. -/
namespace FluentSql

namespace Task

variable {σ α β : Type}

/-- A task that does nothing but fail. -/
def Refuses (task : Task σ α) (error : Error) : Prop := ∀ world, task world = (.failed error, world)

theorem Refuses.bind {task : Task σ α} {error : Error} (refuses : task.Refuses error)
    (next : α → Task σ β) : (task >>= next).Refuses error :=
  fun world => bind_of_failed (refuses world) next

theorem refuses_bind_of_error {result : Except Error α} {error : Error}
    (refused : result = .error error) (next : α → Task σ β) :
    (ofExcept result >>= next).Refuses error := by
  subst refused
  have refuses : (ofExcept (.error error) : Task σ α).Refuses error := fun _ => rfl
  exact refuses.bind next

end Task

namespace Query

/-- An operation that a builder ends in, with its arguments and the type of its answer. -/
inductive Terminal : Type → Type 1 where
  | get (α : Type) [FromRow α] : Terminal (List α)
  | first (α : Type) [FromRow α] : Terminal (Option α)
  | find (α : Type) [FromRow α] (id : Value) : Terminal (Option α)
  | pluck (α : Type) [FromValue α] (column : String) : Terminal (List α)
  | count : Terminal UInt64
  | exists? : Terminal Bool
  | aggregate (aggregate : Aggregate) (column : String) : Terminal (Option Double)
  | paginate (α : Type) [FromRow α] (number perPage : UInt64) : Terminal (Pagination α)
  | create (fields : Fields) : Terminal Int64
  | batchInsert (records : List Fields) : Terminal UInt64
  | bulkInsert (records : List Fields) : Terminal (List Int64)
  | update (fields : Fields) (names : List String) : Terminal UInt64
  | updateMap (data : Entries Value) : Terminal UInt64
  | bulkUpdate (records : List Fields) (key : String) : Terminal UInt64
  | increment (column : String) (amount : Value) : Terminal UInt64
  | decrement (column : String) (amount : Value) : Terminal UInt64
  | delete : Terminal UInt64

section Runs

variable {σ α : Type} [Backend σ]

def Terminal.run (query : Query) (context : Context) (terminal : Terminal α) : Task σ α :=
  match α, terminal with
  | _, @Terminal.get _ _ => query.get context
  | _, @Terminal.first _ _ => query.first context
  | _, @Terminal.find _ _ id => query.find context id
  | _, @Terminal.pluck _ _ column => query.pluck context column
  | _, .count => query.count context
  | _, .exists? => query.exists? context
  | _, .aggregate operation column => query.aggregate context operation column
  | _, @Terminal.paginate _ _ number perPage => query.paginate context number perPage
  | _, .create fields => query.create context fields
  | _, .batchInsert records => query.batchInsert context records
  | _, .bulkInsert records => query.bulkInsert context records
  | _, .update fields names => query.update context fields names
  | _, .updateMap data => query.updateMap context data
  | _, .bulkUpdate records key => query.bulkUpdate context records key
  | _, .increment column amount => query.increment context column amount
  | _, .decrement column amount => query.decrement context column amount
  | _, .delete => query.delete context

end Runs

section Refused

variable {query : Query} {error : Error}

theorem check_of_fault (held : query.fault? = some error) : query.check = .error error := by
  unfold check
  rw [held]

theorem toSql_of_fault (held : query.fault? = some error) : query.toSql = .error error := by
  rw [toSql, check_of_fault held]
  rfl

theorem countStatement_of_fault (held : query.fault? = some error) :
    query.countStatement = .error error := by
  rw [countStatement, check_of_fault held]
  rfl

theorem aggregateStatement_of_fault (held : query.fault? = some error) (aggregate : Aggregate)
    (column : String) : query.aggregateStatement aggregate column = .error error := by
  rw [aggregateStatement, check_of_fault held]
  rfl

theorem requireTarget_of_fault (held : query.fault? = some error) (operation : String) :
    query.requireTarget operation = .error error := by
  rw [requireTarget, check_of_fault held]
  rfl

theorem requireTarget_of_sound (table : query.table ≠ "") (sound : query.fault? = none)
    (operation : String) : query.requireTarget operation = .ok () := by
  simp only [requireTarget, check, requireTable, sound, if_neg table]
  rfl

theorem sound_of_requireTarget {operation : String} {target : Unit}
    (accepted : query.requireTarget operation = .ok target) :
    query.table ≠ "" ∧ query.fault? = none := by
  cases held : query.fault? with
  | some error =>
    rw [requireTarget_of_fault held] at accepted
    cases accepted
  | none =>
    refine ⟨fun none => ?_, rfl⟩
    simp only [requireTarget, check, requireTable, held, if_pos none] at accepted
    cases accepted

/-- Whatever a write goes on with, its target is looked at first. -/
theorem refused_of_fault (held : query.fault? = some error) {operation : String}
    (next : Unit → Except Error α) : (query.requireTarget operation >>= next) = .error error := by
  rw [requireTarget_of_fault held]
  rfl

/-- A select without a construction error needs a table or columns, and nothing else. -/
theorem toSql_eq_error_iff (sound : query.fault? = none) :
    query.toSql = .error error ↔
      query.table = "" ∧ query.columns = [] ∧ error = .validation .nothingSelected := by
  have passed : query.check = .ok () := by
    unfold check
    rw [sound]
  rw [toSql, passed]
  by_cases bare : query.table = "" ∧ query.columns = []
  · have required : query.requireSelection = .error (.validation .nothingSelected) := if_pos bare
    rw [required]
    constructor
    · intro refused
      exact ⟨bare.1, bare.2, (Except.error.inj refused).symm⟩
    · rintro ⟨-, -, rfl⟩
      rfl
  · have required : query.requireSelection = .ok () := if_neg bare
    rw [required]
    constructor
    · intro refused
      cases refused
    · rintro ⟨table, columns, -⟩
      exact absurd ⟨table, columns⟩ bare

variable {σ α : Type} [Backend σ]

theorem refuses_fetch (query : Query) (context : Context) {statement : Except Error Statement}
    (refused : statement = .error error) :
    (query.fetch context statement : Task σ (List Row)).Refuses error :=
  Task.refuses_bind_of_error refused _

theorem refuses_fetchScalar [FromValue α] (query : Query) (context : Context)
    {statement : Except Error Statement} (refused : statement = .error error) :
    (query.fetchScalar context statement : Task σ α).Refuses error :=
  (refuses_fetch query context refused).bind _

theorem refuses_first [FromRow α] (held : query.fault? = some error) (context : Context) :
    (query.first context : Task σ (Option α)).Refuses error := by
  have limited : (query.setLimit 1).fault? = some error := held
  exact (refuses_fetch query context (toSql_of_fault limited)).bind _

theorem refuses_count (held : query.fault? = some error) (context : Context) :
    (query.count context : Task σ UInt64).Refuses error :=
  refuses_fetchScalar query context (countStatement_of_fault held)

theorem refuses_affected (query : Query) (context : Context) {statement : Except Error Statement}
    (refused : statement = .error error) :
    (query.affected context statement : Task σ UInt64).Refuses error :=
  Task.refuses_bind_of_error refused _

/-- Every operation hands the construction error on and leaves the world alone. -/
theorem Terminal.refuses_run (terminal : Terminal α) (held : query.fault? = some error)
    (context : Context) : (terminal.run query context : Task σ α).Refuses error := by
  cases terminal with
  | get _ => exact (refuses_fetch query context (toSql_of_fault held)).bind _
  | first _ => exact refuses_first held context
  | find _ id =>
    have narrowed : (query.whereId id).fault? = some error := held
    exact refuses_first narrowed context
  | pluck _ column =>
    have selected : (query.select [column]).fault? = some error := held
    exact (refuses_fetch query context (toSql_of_fault selected)).bind _
  | count => exact refuses_count held context
  | exists? => exact (refuses_count held context).bind _
  | aggregate operation column =>
    exact refuses_fetchScalar query context (aggregateStatement_of_fault held operation column)
  | paginate _ number perPage => exact (refuses_count held context).bind _
  | create fields =>
    exact Task.refuses_bind_of_error (refused_of_fault held _) _
  | batchInsert records =>
    exact Task.refuses_bind_of_error (refused_of_fault held _) _
  | bulkInsert records =>
    exact Task.refuses_bind_of_error (refused_of_fault held _) _
  | bulkUpdate records key =>
    exact Task.refuses_bind_of_error (refused_of_fault held _) _
  | update fields names => exact refuses_affected query context (refused_of_fault held _)
  | updateMap data => exact refuses_affected query context (refused_of_fault held _)
  | increment column amount => exact refuses_affected query context (refused_of_fault held _)
  | decrement column amount => exact refuses_affected query context (refused_of_fault held _)
  | delete => exact refuses_affected query context (refused_of_fault held _)

end Refused

/-- The first construction error of a program is what its builder renders to and what every
operation fails with, whatever calls follow: the world stays as it is, so that no backend is called
and no cache is asked. Without such an error a select fails only for want of a table and of
columns. -/
theorem first_fault_wins (connection : Connection) (table : String) (steps : List Step) :
    (∀ error, firstFault? ⟨connection.dialect, false⟩ steps = some error →
      ∀ later : List Step,
        ((new connection table).applyAll (steps ++ later)).toSql = .error error ∧
        ∀ {σ α : Type} [Backend σ] (terminal : Terminal α) (context : Context) (world : World σ),
          terminal.run ((new connection table).applyAll (steps ++ later)) context world =
            (.failed error, world)) ∧
    (firstFault? ⟨connection.dialect, false⟩ steps = none →
      ∀ error, ((new connection table).applyAll steps).toSql = .error error ↔
        ((new connection table).applyAll steps).table = "" ∧
          ((new connection table).applyAll steps).columns = [] ∧
          error = .validation .nothingSelected) := by
  constructor
  · intro error first later
    have held : ((new connection table).applyAll (steps ++ later)).fault? = some error := by
      rw [fault?_program]
      exact firstFault?_append_of_some first later
    refine ⟨toSql_of_fault held, ?_⟩
    intro σ α _ terminal context world
    exact terminal.refuses_run held context world
  · intro none error
    have sound : ((new connection table).applyAll steps).fault? = Option.none := by
      rw [fault?_program]
      exact none
    exact toSql_eq_error_iff sound

/-- Orders joined to payments that are sorted sideways. -/
def sideways : SubQuery :=
  .mk none "orders" [.union true (.mk (some .postgres) "payments" [.orderBy "id" "sideways"])]

theorem first_fault_wins_nested :
    (((new ⟨.pool, .sqlite⟩ "users").applyAll
        ([.selectSub sideways "own", .lockModifier "NOWAIT"] ++
          [.withTransaction ⟨.transaction 4, .mySql⟩, .subQuery "inner"])).toSql =
        .error (.validation (.orderDirection "sideways")) ∧
      (Terminal.delete.run ((new ⟨.pool, .sqlite⟩ "users").applyAll
          ([.selectSub sideways "own", .lockModifier "NOWAIT"] ++
            [.withTransaction ⟨.transaction 4, .mySql⟩, .subQuery "inner"]))
          Context.background (World.start Recorder.empty)) =
        (.failed (.validation (.orderDirection "sideways")), World.start Recorder.empty)) ∧
    ((new ⟨.pool, .sqlite⟩ "").applyAll [.lock "FOR UPDATE", .lockModifier "NOWAIT"]).toSql =
      .error (.validation .nothingSelected) := by
  have failing := (first_fault_wins ⟨.pool, .sqlite⟩ "users"
    [.selectSub sideways "own", .lockModifier "NOWAIT"]).1
      (.validation (.orderDirection "sideways")) (by decide +kernel)
      [.withTransaction ⟨.transaction 4, .mySql⟩, .subQuery "inner"]
  have bare := (first_fault_wins ⟨.pool, .sqlite⟩ ""
    [.lock "FOR UPDATE", .lockModifier "NOWAIT"]).2 (by decide +kernel)
      (.validation .nothingSelected)
  exact ⟨⟨failing.1, failing.2 .delete .background (World.start Recorder.empty)⟩,
    bare.mpr ⟨rfl, rfl, rfl⟩⟩

end Query
end FluentSql
