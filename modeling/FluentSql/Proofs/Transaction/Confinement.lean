import FluentSql.Proofs.Cache.ReadThrough
import FluentSql.Proofs.Query.Terminals
import FluentSql.Proofs.Transaction.Body

/-! Builders that are bound to a transaction. Whatever is called on them they keep their connection,
and every operation sends its statements to the session of the transaction. The pool and the cache
see nothing of it. -/
namespace FluentSql

/-- A backend that has nothing to do with the cache in front of it. -/
class CacheApart (σ : Type) [Backend σ] : Prop extends CacheBlind σ where
  execute_leavesCache : ∀ session? sql args,
    (Backend.execute session? sql args : Task σ WriteResult).LeavesCache

instance : CacheApart Recorder where
  execute_leavesCache session? sql args :=
    (Recorder.leavesCache_answer session? sql args Recorder.takeResult).bind fun _ =>
      Task.leavesCache_onBackend _

/-- A journal does not touch the cache. -/
instance [Backend σ] [CacheApart σ] : CacheApart (Journaled σ) where
  query_leavesCache session? sql args world :=
    CacheBlind.query_leavesCache session? sql args (Journaled.inner world)
  execute_leavesCache session? sql args world :=
    CacheApart.execute_leavesCache session? sql args (Journaled.inner world)

namespace Task

variable {σ α β : Type} {session : SessionId}

/-- Whatever the world and however the task ends, it calls the backend for statements of one session
only, and neither asks a cache nor changes one. -/
structure StaysIn (session : SessionId) (task : Task (Journaled σ) α) : Prop where
  emits : task.Emits (Body.Statements session)
  leaves : task.LeavesCache

theorem StaysIn.bind {task : Task (Journaled σ) α} {next : α → Task (Journaled σ) β}
    (stays : task.StaysIn session) (rest : ∀ value, (next value).StaysIn session) :
    (task >>= next).StaysIn session where
  emits := stays.emits.seq (fun value => (rest value).emits) Body.statements_append
  leaves := stays.leaves.bind fun value => (rest value).leaves

theorem staysIn_pure (value : α) : StaysIn session (pure value : Task (Journaled σ) α) where
  emits := (silent_pure value).emits (Body.statements_nil session)
  leaves := fun _ => rfl

theorem staysIn_fail (error : Error) : StaysIn session (fail error : Task (Journaled σ) α) where
  emits := (silent_fail error).emits (Body.statements_nil session)
  leaves := fun _ => rfl

theorem staysIn_ofExcept (result : Except Error α) :
    StaysIn session (ofExcept result : Task (Journaled σ) α) where
  emits := (silent_ofExcept result).emits (Body.statements_nil session)
  leaves := leavesCache_ofExcept result

theorem staysIn_panic (message : String) :
    StaysIn session (panic message : Task (Journaled σ) α) where
  emits := (silent_panic message).emits (Body.statements_nil session)
  leaves := fun _ => rfl

theorem staysIn_ofRow (result : Except Halt α) :
    StaysIn session (ofRow result : Task (Journaled σ) α) := by
  rcases result with (error | _) | value
  · exact staysIn_fail error
  · exact staysIn_panic _
  · exact staysIn_pure value

theorem staysIn_report (event : LogEvent) :
    StaysIn session (report event : Task (Journaled σ) Unit) where
  emits := (silent_report event).emits (Body.statements_nil session)
  leaves := fun _ => rfl

end Task

namespace Connection

variable {σ : Type} [Backend σ] [CacheApart σ] (transaction : Transaction) (context : Context)
  (sql : String) (args : List Value)

theorem staysIn_select : (transaction.connection.select context sql args :
    Task (Journaled σ) (List Row)).StaysIn transaction.session where
  emits := (emits_select transaction.connection context sql args).mono Body.statements_of_sends
  leaves := leavesCache_dispatch _ context sql args CacheBlind.query_leavesCache

theorem staysIn_exec : (transaction.connection.exec context sql args :
    Task (Journaled σ) WriteResult).StaysIn transaction.session where
  emits := (emits_exec transaction.connection context sql args).mono Body.statements_of_sends
  leaves := leavesCache_dispatch _ context sql args CacheApart.execute_leavesCache

theorem staysIn_get : (transaction.connection.get context sql args :
    Task (Journaled σ) (Option Row)).StaysIn transaction.session :=
  (staysIn_select transaction context sql args).bind fun _ => Task.staysIn_pure _

end Connection

namespace Query

/-- A builder that is bound to a transaction: one of its tables, or any builder attached to it,
after any calls that do not attach it to another connection. -/
inductive BoundTo (transaction : Transaction) : Query → Prop where
  | table (name : String) : BoundTo transaction (transaction.table name)
  | attached (query : Query) : BoundTo transaction (query.withTransaction transaction.connection)
  | step {query : Query} (bound : BoundTo transaction query) {step : Step}
      (kept : ∀ connection, step ≠ .withTransaction connection) :
      BoundTo transaction (query.apply step)

theorem BoundTo.connection_eq {transaction : Transaction} {query : Query}
    (bound : query.BoundTo transaction) : query.connection = transaction.connection := by
  induction bound with
  | table name => rfl
  | attached query => rfl
  | step bound kept ih => exact (connection_apply _ kept).trans ih

section Operations

variable {σ α : Type} [Backend σ] [CacheApart σ] {transaction : Transaction} {query : Query}

theorem staysIn_fetch (bound : query.connection = transaction.connection) (context : Context)
    (statement : Except Error Statement) :
    (query.fetch context statement : Task (Journaled σ) (List Row)).StaysIn
      transaction.session := by
  refine (Task.staysIn_ofExcept statement).bind fun statement => ?_
  have direct : (query.connection.selectCached context statement query.ttl? :
      Task (Journaled σ) (List Row)) =
        transaction.connection.select context statement.sql statement.args := by
    have off : transaction.connection.target ≠ .pool := by simp [Transaction.connection]
    rw [bound]
    funext world
    exact Connection.selectCached_of_bypass (Or.inl off) context statement
  rw [direct]
  exact Connection.staysIn_select transaction context statement.sql statement.args

theorem staysIn_fetchScalar [FromValue α] (bound : query.connection = transaction.connection)
    (context : Context) (statement : Except Error Statement) :
    (query.fetchScalar context statement : Task (Journaled σ) α).StaysIn transaction.session := by
  refine (staysIn_fetch bound context statement).bind fun rows => ?_
  cases rows.head? with
  | none => exact Task.staysIn_fail _
  | some row => exact Task.staysIn_ofExcept _

theorem staysIn_get [FromRow α] (bound : query.connection = transaction.connection)
    (context : Context) :
    (query.get context : Task (Journaled σ) (List α)).StaysIn transaction.session :=
  (staysIn_fetch bound context _).bind fun _ => Task.staysIn_ofRow _

theorem staysIn_first [FromRow α] (bound : query.connection = transaction.connection)
    (context : Context) :
    (query.first context : Task (Journaled σ) (Option α)).StaysIn transaction.session := by
  refine (staysIn_fetch bound context _).bind fun rows => ?_
  cases rows.head? with
  | none => exact Task.staysIn_pure _
  | some row =>
    exact (Task.staysIn_ofRow (fromRow row)).bind fun value => Task.staysIn_pure (some value)

theorem staysIn_count (bound : query.connection = transaction.connection) (context : Context) :
    (query.count context : Task (Journaled σ) UInt64).StaysIn transaction.session :=
  staysIn_fetchScalar bound context _

theorem staysIn_paginate [FromRow α] (bound : query.connection = transaction.connection)
    (context : Context) (number perPage : UInt64) :
    (query.paginate context number perPage :
      Task (Journaled σ) (Pagination α)).StaysIn transaction.session := by
  refine (staysIn_count bound context).bind fun total => ?_
  dsimp only
  split
  · exact (Task.staysIn_pure []).bind fun data => Task.staysIn_pure _
  · have paged : (query.page (Pagination.clamp number) (Pagination.clamp perPage)).connection =
        transaction.connection := bound
    exact (staysIn_get paged context).bind fun data => Task.staysIn_pure _

theorem staysIn_exec (bound : query.connection = transaction.connection) (context : Context)
    (statement : Statement) :
    (query.exec context statement : Task (Journaled σ) WriteResult).StaysIn
      transaction.session := by
  rw [Query.exec, bound]
  exact Connection.staysIn_exec transaction context statement.sql statement.args

theorem staysIn_affected (bound : query.connection = transaction.connection) (context : Context)
    (statement : Except Error Statement) :
    (query.affected context statement : Task (Journaled σ) UInt64).StaysIn
      transaction.session := by
  refine (Task.staysIn_ofExcept statement).bind fun statement => ?_
  exact (staysIn_exec bound context statement).bind fun result => Task.staysIn_pure _

omit [Backend σ] [CacheApart σ] in
theorem staysIn_lastInsertId (session : SessionId) (result : WriteResult) :
    (lastInsertId result : Task (Journaled σ) Int64).StaysIn session := by
  unfold lastInsertId
  cases result.lastInsertId? with
  | none => exact Task.staysIn_fail _
  | some id => exact Task.staysIn_pure id

theorem staysIn_create (bound : query.connection = transaction.connection) (context : Context)
    (fields : Fields) :
    (query.create context fields : Task (Journaled σ) Int64).StaysIn transaction.session := by
  refine (Task.staysIn_ofExcept _).bind fun statement => ?_
  split
  · rw [bound]
    refine (Connection.staysIn_get transaction context statement.sql statement.args).bind
      fun row? => ?_
    cases row? with
    | none => exact Task.staysIn_fail _
    | some row => exact Task.staysIn_ofExcept _
  · exact (staysIn_exec bound context statement).bind (staysIn_lastInsertId _)

/-- A batch without records sends nothing. -/
theorem staysIn_affected? (bound : query.connection = transaction.connection) (context : Context)
    (result : Except Error (Option Statement)) :
    Task.StaysIn transaction.session (do
      match ← Task.ofExcept result with
      | some statement => query.affected context (.ok statement)
      | none => pure 0 : Task (Journaled σ) UInt64) := by
  refine (Task.staysIn_ofExcept result).bind fun statement? => ?_
  cases statement? with
  | none => exact Task.staysIn_pure 0
  | some statement => exact staysIn_affected bound context _

theorem staysIn_bulkInsert (bound : query.connection = transaction.connection)
    (context : Context) (records : List Fields) :
    (query.bulkInsert context records : Task (Journaled σ) (List Int64)).StaysIn
      transaction.session := by
  refine (Task.staysIn_ofExcept _).bind fun statement? => ?_
  cases statement? with
  | none => exact Task.staysIn_pure []
  | some statement =>
    dsimp only
    split
    · rw [bound]
      exact (Connection.staysIn_select transaction context statement.sql statement.args).bind
        fun rows => Task.staysIn_ofExcept _
    · refine (staysIn_exec bound context statement).bind fun result => ?_
      refine (staysIn_lastInsertId _ result).bind fun id => ?_
      exact (Task.staysIn_report _).bind fun _ => Task.staysIn_pure _

/-- Every operation of a builder on a transaction stays in its session. -/
theorem Terminal.staysIn_run (terminal : Terminal α)
    (bound : query.connection = transaction.connection) (context : Context) :
    (terminal.run query context : Task (Journaled σ) α).StaysIn transaction.session := by
  cases terminal with
  | get _ => exact staysIn_get bound context
  | first _ => exact staysIn_first bound context
  | find _ id =>
    have narrowed : (query.whereId id).connection = transaction.connection := bound
    exact staysIn_first narrowed context
  | pluck _ column => exact (staysIn_fetch bound context _).bind fun _ => Task.staysIn_ofExcept _
  | count => exact staysIn_count bound context
  | exists? => exact (staysIn_count bound context).bind fun _ => Task.staysIn_pure _
  | aggregate operation column => exact staysIn_fetchScalar bound context _
  | paginate _ number perPage => exact staysIn_paginate bound context number perPage
  | create fields => exact staysIn_create bound context fields
  | batchInsert records => exact staysIn_affected? bound context _
  | bulkInsert records => exact staysIn_bulkInsert bound context records
  | bulkUpdate records key => exact staysIn_affected? bound context _
  | update fields names => exact staysIn_affected bound context _
  | updateMap data => exact staysIn_affected bound context _
  | increment column amount => exact staysIn_affected bound context _
  | decrement column amount => exact staysIn_affected bound context _
  | delete => exact staysIn_affected bound context _

end Operations

/-- Whatever builder is bound to a transaction and whatever it ends in, every call on the backend is
a statement in the session of the transaction, and the cache is neither asked nor changed. -/
theorem bound_builders_stay_in_session {transaction : Transaction} {query : Query}
    (bound : query.BoundTo transaction) {σ α : Type} [Backend σ] [CacheApart σ]
    (terminal : Terminal α) (context : Context) (world : World (Journaled σ)) :
    ∃ sent, (terminal.run query context world).2.backend.calls = world.backend.calls ++ sent ∧
      (∀ call ∈ sent, ∃ sql args, call = .statement (some transaction.session) sql args) ∧
      (terminal.run query context world).2.cache = world.cache := by
  have stays : (terminal.run query context : Task (Journaled σ) α).StaysIn transaction.session :=
    terminal.staysIn_run bound.connection_eq context
  obtain ⟨sent, calls, inside⟩ := stays.emits world
  exact ⟨sent, calls, inside, stays.leaves world⟩

/-- Users of the pool to be remembered, attached to a transaction and united with administrators of
the pool. -/
def attachedUsers (transaction : Transaction) : Query :=
  (((new ⟨.pool, .mySql⟩ "users").remember ⟨60⟩).withTransaction transaction.connection).apply
    (.union true (.mk none "admins" [.remember ⟨5⟩]))

/-- The third transaction is open, and a cache is in use. -/
def openThird : World (Journaled Recorder) :=
  { World.start ⟨Recorder.empty, []⟩ with sessions := [3], cache := Cache.empty.activate 0 }

theorem bound_builders_stay_in_session_remembered :
    ((Terminal.get Row).run (attachedUsers ⟨3, .mySql⟩) .background openThird).2.backend.calls =
        [.statement (some 3) "(SELECT * FROM users) UNION ALL (SELECT * FROM admins)" []] ∧
      ((Terminal.get Row).run (attachedUsers ⟨3, .mySql⟩) .background openThird).2.cache =
        openThird.cache := by
  have bound : (attachedUsers ⟨3, .mySql⟩).BoundTo ⟨3, .mySql⟩ := .step (.attached _) nofun
  obtain ⟨sent, calls, inside, kept⟩ := bound_builders_stay_in_session bound (Terminal.get Row)
    .background openThird
  exact ⟨by decide +kernel, kept⟩

end Query
end FluentSql
