import FluentSql.Postgres.Server
import Mathlib.Data.List.Basic
import Mathlib.Data.List.Induction

/-! What the traffic of one connection tells about a transaction that may be open on it. -/
namespace FluentSql.Postgres

/-- The statements with which a pool opens and closes its transactions. -/
def controls : List String := ["BEGIN", "COMMIT", "ROLLBACK"]

namespace Message

/-- Whether a message opens a transaction, sent by the pool or by a caller. -/
def Begins : Message → Prop
  | .simple sql => sql = "BEGIN"
  | .prepare sql => sql = "BEGIN"
  | .bind _ => False

/-- Whether a message closes the pool's transaction. -/
def Ends (message : Message) : Prop := message = .simple "COMMIT" ∨ message = .simple "ROLLBACK"

/-- Whether a message is none of the pool's own about transactions. -/
def Ordinary (message : Message) : Prop := ∀ sql ∈ controls, message ≠ .simple sql

end Message

namespace Traffic

def message : Traffic → Message
  | .sent message => message
  | .accepted message => message
  | .refused message => message

/-- Whether an entry answers a message. -/
def Answers (entry : Traffic) (message : Message) : Prop :=
  entry = .accepted message ∨ entry = .refused message

end Traffic

/-- The transaction that a message begins may be open after what came behind it: the message was not
refused, and no COMMIT or ROLLBACK was accepted. -/
structure LeftOpen (message : Message) (after : List Traffic) : Prop where
  begins : message.Begins
  unrefused : after.head? ≠ some (.refused message)
  unclosed : ∀ closing : Message, closing.Ends → .accepted closing ∉ after

/-- A transaction was begun and may still be open. -/
def Exposed (traffic : List Traffic) : Prop :=
  ∃ before message after, traffic = before ++ .sent message :: after ∧ LeftOpen message after

/-- A message was sent, and no answer was taken in before anything else happened. -/
def Unanswered (traffic : List Traffic) (message : Message) : Prop :=
  ∃ before after, traffic = before ++ .sent message :: after ∧
    ∀ entry ∈ after.head?, ¬ entry.Answers message

/-- What leaves a transaction open on a connection: a caller began it on its own, or the pool did
not wait for the answer to one of its statements, from the one that begins it on. -/
def Excuse (message : Message) (after : List Traffic) : Prop :=
  message = .prepare "BEGIN" ∨
    ∃ sql ∈ controls, Unanswered (.sent message :: after) (.simple sql)

/-- Every transaction that may be open has an excuse of its own. -/
def Excused (traffic : List Traffic) : Prop :=
  ∀ before message after, traffic = before ++ .sent message :: after →
    LeftOpen message after → Excuse message after

section Entries

variable {traffic before after : List Traffic} {message : Message} {entry : Traffic}

/-- A message among entries is the last of them, or came before. -/
theorem sent_last_or_before (shape : traffic ++ [entry] = before ++ .sent message :: after) :
    (after = [] ∧ entry = .sent message) ∨
      ∃ earlier, after = earlier ++ [entry] ∧ traffic = before ++ .sent message :: earlier := by
  cases after using List.reverseRecOn with
  | nil =>
    obtain ⟨_, last⟩ := List.append_inj' shape rfl
    exact .inl ⟨rfl, List.singleton_inj.mp last⟩
  | append_singleton earlier last =>
    rw [← List.cons_append, ← List.append_assoc] at shape
    obtain ⟨front, same⟩ := List.append_inj' shape rfl
    rw [← List.singleton_inj.mp same]
    exact .inr ⟨earlier, rfl, front⟩

/-- What is open after more has come was open before. -/
theorem LeftOpen.of_append {more : List Traffic} (left : LeftOpen message (after ++ more)) :
    LeftOpen message after := by
  refine ⟨left.begins, ?_, ?_⟩
  · intro refused
    refine left.unrefused ?_
    rw [List.head?_append, refused]
    rfl
  · intro closing ends accepted
    exact left.unclosed closing ends (List.mem_append_left more accepted)

theorem Unanswered.append (unanswered : Unanswered traffic message) {more : List Traffic}
    (silent : ∀ entry ∈ more.head?, ¬ entry.Answers message) :
    Unanswered (traffic ++ more) message := by
  obtain ⟨before, after, rfl, nothing⟩ := unanswered
  refine ⟨before, after ++ more, List.append_assoc _ _ _, ?_⟩
  cases after with
  | nil => exact silent
  | cons first rest => exact nothing

theorem Excuse.append (excuse : Excuse message after) {more : List Traffic}
    (silent : ∀ entry ∈ more.head?, ∀ sql ∈ controls, ¬ entry.Answers (.simple sql)) :
    Excuse message (after ++ more) := by
  rcases excuse with own | ⟨sql, control, unanswered⟩
  · exact .inl own
  · have longer := unanswered.append fun entry first => silent entry first sql control
    exact .inr ⟨sql, control, longer⟩

end Entries

section Excuses

variable {traffic : List Traffic}

theorem excused_nil : Excused [] := by
  intro before message after shape
  exact absurd shape.symm (List.append_ne_nil_of_right_ne_nil before (List.cons_ne_nil _ after))

/-- Statements of callers leave the excuses as they are, and bring their own. -/
theorem Excused.append_ordinary (excused : Excused traffic) {entry : Traffic}
    (ordinary : entry.message.Ordinary) : Excused (traffic ++ [entry]) := by
  intro before message after shape left
  rcases sent_last_or_before shape with ⟨_, rfl⟩ | ⟨earlier, rfl, front⟩
  · cases message with
    | simple sql =>
      have begin : Message.simple sql = .simple "BEGIN" := congrArg Message.simple left.begins
      exact absurd begin (ordinary "BEGIN" List.mem_cons_self)
    | prepare sql => exact .inl (congrArg Message.prepare left.begins)
    | bind parameters => exact left.begins.elim
  · refine (excused before message earlier front left.of_append).append ?_
    rintro _ ⟨⟩ sql control (rfl | rfl)
    · exact ordinary sql control rfl
    · exact ordinary sql control rfl

/-- A statement of the pool that is on its way excuses everything. -/
theorem excused_sent {sql : String} (control : sql ∈ controls) :
    Excused (traffic ++ [.sent (.simple sql)]) := by
  intro before message after shape _
  refine .inr ⟨sql, control, ?_⟩
  rcases sent_last_or_before shape with ⟨rfl, same⟩ | ⟨earlier, rfl, _⟩
  · exact ⟨[], [], congrArg (fun entry => [entry]) same.symm, nofun⟩
  · exact ⟨.sent message :: earlier, [], rfl, nofun⟩

/-- A transaction that was refused leaves the connection as it was. -/
theorem Excused.append_refused (excused : Excused traffic) :
    Excused (traffic ++ [.sent (.simple "BEGIN"), .refused (.simple "BEGIN")]) := by
  intro before message after shape left
  rw [List.append_cons] at shape
  rcases sent_last_or_before shape with ⟨_, same⟩ | ⟨behind, rfl, inner⟩
  · cases same
  rcases sent_last_or_before inner with ⟨rfl, same⟩ | ⟨earlier, rfl, front⟩
  · cases same
    exact absurd rfl left.unrefused
  rw [List.append_assoc] at left ⊢
  refine (excused before message earlier front left.of_append).append ?_
  rintro _ ⟨⟩ sql _ (answer | answer)
  · cases answer
  · cases answer

/-- Nothing is open once a COMMIT or a ROLLBACK was accepted. -/
theorem excused_accepted {closing : Message} (ends : closing.Ends) :
    Excused (traffic ++ [.accepted closing]) := by
  intro before message after shape left
  rcases sent_last_or_before shape with ⟨_, same⟩ | ⟨earlier, rfl, _⟩
  · cases same
  · exact absurd (List.mem_append_right earlier (List.mem_singleton_self _))
      (left.unclosed closing ends)

end Excuses

end FluentSql.Postgres
