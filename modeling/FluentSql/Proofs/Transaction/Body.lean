import FluentSql.Proofs.Backend.Lawful
import FluentSql.Transaction

/-! Bodies of transactions: statements one after another, each choosing what follows by its result,
until the body succeeds, fails or panics. -/
namespace FluentSql

/-- What a caller does in a transaction. It holds the transaction and cannot finish it. -/
inductive Body (α : Type) where
  | ok (value : α)
  | err (error : Error)
  | panic (message : String)
  | select (context : Context) (sql : String) (args : List Value)
      (next : Except Error (List Row) → Body α)
  | exec (context : Context) (sql : String) (args : List Value)
      (next : Except Error WriteResult → Body α)
  | wait (span : Duration) (next : Body α)

namespace Body

variable {σ α : Type} [Backend σ]

def run (transaction : Transaction) : Body α → Task σ α
  | .ok value => pure value
  | .err error => Task.fail error
  | .panic message => Task.panic message
  | .select context sql args next => do
    let result ← (transaction.connection.select context sql args).attempt
    (next result).run transaction
  | .exec context sql args next => do
    let result ← (transaction.connection.exec context sql args).attempt
    (next result).run transaction
  | .wait span next => do
    Task.wait span
    next.run transaction

theorem keeps_run [LawfulBackend σ] (transaction : Transaction) (body : Body α) :
    (body.run transaction : Task σ α).Keeps := by
  induction body with
  | ok value => exact Task.keeps_pure value
  | err error => exact Task.keeps_fail error
  | panic message => exact Task.keeps_panic message
  | select context sql args next ih =>
    exact (Connection.keeps_select _ context sql args).attempt.bind ih
  | exec context sql args next ih =>
    exact (Connection.keeps_exec _ context sql args).attempt.bind ih
  | wait span next ih => exact (Task.keeps_wait span).bind fun _ => ih

/-- Calls that are statements of one session, and nothing else. -/
def Statements (session : SessionId) (sent : List BackendCall) : Prop :=
  ∀ call ∈ sent, ∃ sql args, call = .statement (some session) sql args

theorem statements_nil (session : SessionId) : Statements session [] := by
  intro call member
  cases member

theorem statements_append {session : SessionId} {first rest : List BackendCall}
    (before : Statements session first) (after : Statements session rest) :
    Statements session (first ++ rest) := by
  intro call member
  rcases List.mem_append.mp member with early | late
  · exact before call early
  · exact after call late

theorem statements_of_sends {transaction : Transaction} {sql : String} {args : List Value}
    (sent : List BackendCall)
    (sends : Connection.Sends transaction.connection.session? sql args sent) :
    Statements transaction.session sent := by
  intro call member
  rcases sends with rfl | rfl
  · cases member
  · exact ⟨sql, args, List.mem_singleton.mp member⟩

theorem emits_run (transaction : Transaction) (body : Body α) :
    (body.run transaction : Task (Journaled σ) α).Emits (Statements transaction.session) := by
  have none := statements_nil transaction.session
  induction body with
  | ok value => exact (Task.silent_pure value).emits none
  | err error => exact (Task.silent_fail error).emits none
  | panic message => exact Task.Silent.emits (fun _ => rfl) none
  | select context sql args next ih =>
    have sends := (@Connection.emits_select σ _ transaction.connection context sql args).mono
      statements_of_sends
    exact sends.attempt.seq ih statements_append
  | exec context sql args next ih =>
    have sends := (@Connection.emits_exec σ _ transaction.connection context sql args).mono
      statements_of_sends
    exact sends.attempt.seq ih statements_append
  | wait span next ih =>
    exact ((Task.silent_wait span).emits none).seq (fun _ => ih) statements_append

end Body
end FluentSql
