import FluentSql.Proofs.Postgres.Moves
import Mathlib.Data.List.Basic
import Mathlib.Order.Basic

/-! Which connections moves leave idle: what one move keeps, and so every run of moves. -/
namespace FluentSql.Postgres

/-- Every connection is in one place, and is only left to others with an excuse. -/
structure Sound (situation : Situation) : Prop where
  once : ∀ connection, situation.uses connection ≤ 1
  numbered : ∀ connection : Nat, 0 < situation.uses connection →
    connection ≤ situation.pool.opened
  heard : ∀ connection : Nat, own situation.traffic connection ≠ [] →
    connection ≤ situation.pool.opened
  idle : ∀ connection ∈ situation.pool.idle, Excused (own situation.traffic connection)
  held : ∀ connection hold, (connection, hold) ∈ situation.held →
    hold.Fits (own situation.traffic connection)

/-- A move that leaves all connections but one as they are. -/
structure Turn (before after : Situation) (connection : ConnectionId) : Prop where
  opened : before.pool.opened ≤ after.pool.opened
  idle : after.pool.idle.filter (· ≠ connection) = before.pool.idle.filter (· ≠ connection)
  held : after.held.filter (·.1 ≠ connection) = before.held.filter (·.1 ≠ connection)
  sessions : ∀ other ≠ connection,
    after.sessions.count (some other) = before.sessions.count (some other)
  traffic : ∀ other ≠ connection, own after.traffic other = own before.traffic other

namespace Turn

variable {before after : Situation} {connection other : ConnectionId}

theorem note (turn : Turn before after connection) (entries : List Traffic) :
    Turn before (after.note connection entries) connection := by
  refine ⟨turn.opened, turn.idle, turn.held, turn.sessions, ?_⟩
  intro other apart
  rw [Situation.own_note_of_ne after apart, turn.traffic other apart]

theorem mem_idle (turn : Turn before after connection) (apart : other ≠ connection)
    (member : other ∈ after.pool.idle) : other ∈ before.pool.idle := by
  have kept : other ∈ after.pool.idle.filter (· ≠ connection) :=
    List.mem_filter.mpr ⟨member, decide_eq_true apart⟩
  rw [turn.idle] at kept
  exact List.mem_of_mem_filter kept

theorem mem_held (turn : Turn before after connection) (apart : other ≠ connection) {hold : Hold}
    (member : (other, hold) ∈ after.held) : (other, hold) ∈ before.held := by
  have kept : (other, hold) ∈ after.held.filter (·.1 ≠ connection) :=
    List.mem_filter.mpr ⟨member, decide_eq_true apart⟩
  rw [turn.held] at kept
  exact List.mem_of_mem_filter kept

theorem uses (turn : Turn before after connection) (apart : other ≠ connection) :
    after.uses other = before.uses other := by
  have idle (situation : Situation) : (situation.pool.idle.filter (· ≠ connection)).count other =
      situation.pool.idle.count other := List.count_filter (decide_eq_true apart)
  have held (situation : Situation) :
      ((situation.held.filter (·.1 ≠ connection)).map Prod.fst).count other =
        (situation.held.map Prod.fst).count other := by
    have names : (situation.held.filter (·.1 ≠ connection)).map Prod.fst =
        (situation.held.map Prod.fst).filter (· ≠ connection) := by
      rw [List.filter_map]
      rfl
    rw [names]
    exact List.count_filter (decide_eq_true apart)
  unfold Situation.uses
  rw [← idle after, ← idle before, ← held after, ← held before, turn.idle, turn.held,
    turn.sessions other apart]

end Turn

/-- After a move about one connection only that connection has to be looked at again. -/
theorem Sound.turn {before after : Situation} (sound : Sound before) {connection : Nat}
    (turn : Turn before after connection) (known : connection ≤ after.pool.opened)
    (once : after.uses connection ≤ 1)
    (idle : connection ∈ after.pool.idle → Excused (own after.traffic connection))
    (held : ∀ hold, (connection, hold) ∈ after.held →
      hold.Fits (own after.traffic connection)) : Sound after := by
  refine ⟨?_, ?_, ?_, ?_, ?_⟩
  · intro other
    by_cases same : other = connection
    · rw [same]
      exact once
    · rw [turn.uses same]
      exact sound.once other
  · intro other used
    by_cases same : other = connection
    · rw [same]
      exact known
    · rw [turn.uses same] at used
      exact Nat.le_trans (sound.numbered other used) turn.opened
  · intro other some
    by_cases same : other = connection
    · rw [same]
      exact known
    · rw [turn.traffic other same] at some
      exact Nat.le_trans (sound.heard other some) turn.opened
  · intro other member
    by_cases same : other = connection
    · subst same
      exact idle member
    · rw [turn.traffic other same]
      exact sound.idle other (turn.mem_idle same member)
  · intro other hold member
    by_cases same : other = connection
    · subst same
      exact held hold member
    · rw [turn.traffic other same]
      exact sound.held other hold (turn.mem_held same member)

section Places

variable {situation : Situation} {connection : Nat}

/-- A connection that a call has taken is nowhere else. -/
theorem Sound.alone_held (sound : Sound situation) {hold : Hold}
    {front back : List (ConnectionId × Hold)}
    (position : situation.held = front ++ (connection, hold) :: back) :
    situation.pool.idle.count connection = 0 ∧
      ((front ++ back).map Prod.fst).count connection = 0 ∧
      situation.sessions.count (some connection) = 0 := by
  have once := sound.once connection
  unfold Situation.uses at once
  rw [position] at once
  simp only [List.map_append, List.map_cons, List.count_append, List.count_cons_self] at once ⊢
  omega

theorem Sound.known_held (sound : Sound situation) {hold : Hold}
    {front back : List (ConnectionId × Hold)}
    (position : situation.held = front ++ (connection, hold) :: back) :
    connection ≤ situation.pool.opened := by
  refine sound.numbered connection ?_
  unfold Situation.uses
  rw [position]
  simp only [List.map_append, List.map_cons, List.count_append, List.count_cons_self]
  omega

theorem not_mem_of_count {held : List (ConnectionId × Hold)}
    (none : (held.map Prod.fst).count connection = 0) (hold : Hold) :
    (connection, hold) ∉ held := by
  intro member
  exact List.count_eq_zero.mp none (List.mem_map_of_mem member)

theorem eq_of_mem_of_count {front back : List (ConnectionId × Hold)} {hold other : Hold}
    (elsewhere : ((front ++ back).map Prod.fst).count connection = 0)
    (member : (connection, other) ∈ front ++ (connection, hold) :: back) : other = hold := by
  rcases List.mem_append.mp member with first | member
  · exact absurd (List.mem_append_left back first) (not_mem_of_count elsewhere other)
  rcases List.mem_cons.mp member with same | last
  · exact congrArg Prod.snd same
  · exact absurd (List.mem_append_right front last) (not_mem_of_count elsewhere other)

/-- What was known of a connection excuses it once its call has given it back. -/
theorem Hold.Fits.leaves {hold : Hold} {traffic entries : List Traffic} (fits : hold.Fits traffic)
    (leaves : hold.Leaves entries) : Excused (traffic ++ entries) := by
  cases leaves with
  | statement =>
    rw [List.append_nil]
    exact fits
  | refused =>
    obtain ⟨_, before, rfl, excused⟩ := fits
    rw [List.append_assoc]
    exact (excused rfl).append_refused
  | closed ends => exact excused_accepted ends
  | abandoned =>
    obtain ⟨control, before, rfl, _⟩ := fits
    rw [List.append_nil]
    exact excused_sent control

theorem controls_of_ends {sql : String} (ends : (Message.simple sql).Ends) :
    sql ∈ controls ∧ sql ≠ "BEGIN" := by
  rcases ends with closing | closing
  · cases closing
    decide
  · cases closing
    decide

end Places

section Steps

variable {situation : Situation} {connection : Nat}

theorem Sound.lend (sound : Sound situation)
    (supply : situation.pool.supply = .reuse connection) :
    Sound { situation with
      pool := situation.pool.lend, held := (connection, .statement) :: situation.held } := by
  have idle := ConnectionPool.idle_of_supply_reuse supply
  have once := sound.once connection
  have known := sound.numbered connection
  have excused := sound.idle connection (by rw [idle]; exact List.mem_cons_self)
  unfold Situation.uses at once known
  rw [idle, List.count_cons_self] at once known
  have turn : Turn situation { situation with
      pool := situation.pool.lend, held := (connection, .statement) :: situation.held }
      connection := by
    refine ⟨Nat.le_refl _, ?_, by simp, fun _ _ => rfl, fun _ _ => rfl⟩
    rw [idle]
    simp [ConnectionPool.lend]
  refine sound.turn turn (known (by omega)) ?_ ?_ ?_
  · simp only [Situation.uses, ConnectionPool.lend, List.map_cons, List.count_cons_self]
    omega
  · intro _
    exact excused
  · intro hold member
    rcases List.mem_cons.mp member with same | elsewhere
    · cases same
      exact excused
    · exact absurd elsewhere (not_mem_of_count (by omega) hold)

theorem Sound.connect (sound : Sound situation)
    (supply : situation.pool.supply = .openNew connection) :
    Sound { situation with
      pool := situation.pool.addOpened, held := (connection, .statement) :: situation.held } := by
  have number : connection = situation.pool.opened + 1 :=
    ConnectionPool.number_of_supply_openNew supply
  have unused : situation.uses connection = 0 := by
    have known := sound.numbered connection
    omega
  have unheard : own situation.traffic connection = [] := by
    by_contra heard
    have known := sound.heard connection heard
    omega
  have fresh := unused
  unfold Situation.uses at fresh
  have turn : Turn situation { situation with
      pool := situation.pool.addOpened, held := (connection, .statement) :: situation.held }
      connection :=
    ⟨Nat.le_succ _, rfl, by simp, fun _ _ => rfl, fun _ _ => rfl⟩
  refine sound.turn turn (Nat.le_of_eq number) ?_ ?_ ?_
  · simp only [Situation.uses, ConnectionPool.addOpened, List.map_cons, List.count_cons_self]
    omega
  · intro _
    rw [unheard]
    exact excused_nil
  · intro hold member
    rcases List.mem_cons.mp member with same | elsewhere
    · cases same
      rw [unheard]
      exact excused_nil
    · exact absurd elsewhere (not_mem_of_count (by omega) hold)

theorem Sound.refuse (sound : Sound situation) :
    Sound { situation with pool := situation.pool.addRefused } := by
  refine ⟨sound.once, ?_, ?_, sound.idle, sound.held⟩
  · intro other used
    exact Nat.le_succ_of_le (sound.numbered other used)
  · intro other heard
    exact Nat.le_succ_of_le (sound.heard other heard)

theorem Sound.speak (sound : Sound situation) {entry : Traffic}
    (ordinary : entry.message.Ordinary) (placed : Placed situation connection) :
    Sound (situation.note connection [entry]) := by
  have once := sound.once connection
  have used : 0 < situation.uses connection := by
    unfold Situation.uses
    rcases placed with held | session
    · have name : connection ∈ situation.held.map Prod.fst := List.mem_map_of_mem held
      have count := List.count_pos_iff.mpr name
      omega
    · have count := List.count_pos_iff.mpr session
      omega
  have turn : Turn situation situation connection :=
    ⟨Nat.le_refl _, rfl, rfl, fun _ _ => rfl, fun _ _ => rfl⟩
  refine sound.turn (turn.note [entry]) (sound.numbered connection used) once ?_ ?_
  · intro member
    rw [Situation.own_note_self]
    exact (sound.idle connection member).append_ordinary ordinary
  · intro hold (member : (connection, hold) ∈ situation.held)
    rw [Situation.own_note_self]
    have statement : hold = .statement := by
      rcases placed with held | session
      · obtain ⟨front, back, position⟩ := List.append_of_mem held
        obtain ⟨_, elsewhere, _⟩ := sound.alone_held position
        rw [position] at member
        exact eq_of_mem_of_count elsewhere member
      · have count := List.count_pos_iff.mpr session
        unfold Situation.uses at once
        exact absurd member (not_mem_of_count (by omega) hold)
    rw [statement] at member ⊢
    have excused : Excused _ := sound.held connection .statement member
    exact excused.append_ordinary ordinary

theorem Sound.begin (sound : Sound situation) {front back : List (ConnectionId × Hold)}
    (position : situation.held = front ++ (connection, .statement) :: back) :
    Sound ({ situation with
      held := front ++ (connection, .awaiting "BEGIN") :: back : Situation }.note connection
        [.sent (.simple "BEGIN")]) := by
  obtain ⟨idle, elsewhere, session⟩ := sound.alone_held position
  have excused : Excused _ := sound.held connection .statement
    (by rw [position]; exact List.mem_append_right _ List.mem_cons_self)
  have turn : Turn situation { situation with
      held := front ++ (connection, .awaiting "BEGIN") :: back } connection :=
    ⟨Nat.le_refl _, rfl, by simp [position], fun _ _ => rfl, fun _ _ => rfl⟩
  refine sound.turn (turn.note _) (sound.known_held position) ?_ ?_ ?_
  · have uses := sound.once connection
    unfold Situation.uses at uses
    rw [position] at uses
    simpa [Situation.uses, Situation.note] using uses
  · intro member
    exact absurd member (List.count_eq_zero.mp idle)
  · intro hold member
    rw [Situation.own_note_self]
    rw [eq_of_mem_of_count elsewhere member]
    exact ⟨List.mem_cons_self, _, rfl, fun _ => excused⟩

theorem Sound.begun (sound : Sound situation) {front back : List (ConnectionId × Hold)}
    {hold : Hold} (position : situation.held = front ++ (connection, hold) :: back)
    (entries : List Traffic) :
    Sound ({ situation with
      sessions := situation.sessions ++ [some connection],
      held := front ++ back : Situation }.note connection entries) := by
  obtain ⟨idle, elsewhere, session⟩ := sound.alone_held position
  have turn : Turn situation { situation with
      sessions := situation.sessions ++ [some connection], held := front ++ back } connection := by
    refine ⟨Nat.le_refl _, rfl, by simp [position], ?_, fun _ _ => rfl⟩
    intro other apart
    simp [apart.symm]
  refine sound.turn (turn.note entries) (sound.known_held position) ?_ ?_ ?_
  · simp only [Situation.uses, Situation.note, List.count_append, List.count_singleton_self]
    omega
  · intro member
    exact absurd member (List.count_eq_zero.mp idle)
  · intro kind member
    exact absurd member (not_mem_of_count elsewhere kind)

theorem Sound.giveBack (sound : Sound situation) {front back : List (ConnectionId × Hold)}
    {hold : Hold} {entries : List Traffic}
    (position : situation.held = front ++ (connection, hold) :: back)
    (leaves : hold.Leaves entries) :
    Sound ({ situation with
      pool := situation.pool.release connection,
      held := front ++ back : Situation }.note connection entries) := by
  obtain ⟨idle, elsewhere, session⟩ := sound.alone_held position
  have fits := sound.held connection hold
    (by rw [position]; exact List.mem_append_right _ List.mem_cons_self)
  have turn : Turn situation { situation with
      pool := situation.pool.release connection, held := front ++ back } connection :=
    ⟨Nat.le_refl _, by simp [ConnectionPool.release], by simp [position], fun _ _ => rfl,
      fun _ _ => rfl⟩
  refine sound.turn (turn.note entries) (sound.known_held position) ?_ ?_ ?_
  · simp only [Situation.uses, Situation.note, ConnectionPool.release, List.count_append,
      List.count_singleton_self]
    omega
  · intro _
    rw [Situation.own_note_self]
    exact fits.leaves leaves
  · intro kind member
    exact absurd member (not_mem_of_count elsewhere kind)

/-- A connection that leaves the pool is not looked at any more. -/
theorem Sound.refuseClose (sound : Sound situation) {front back : List (ConnectionId × Hold)}
    {hold : Hold} (position : situation.held = front ++ (connection, hold) :: back)
    (entries : List Traffic) :
    Sound ({ situation with
      pool := situation.pool.detach,
      held := front ++ back : Situation }.note connection entries) := by
  obtain ⟨idle, elsewhere, session⟩ := sound.alone_held position
  have turn : Turn situation { situation with
      pool := situation.pool.detach, held := front ++ back } connection :=
    ⟨Nat.le_refl _, rfl, by simp [position], fun _ _ => rfl, fun _ _ => rfl⟩
  refine sound.turn (turn.note entries) (sound.known_held position) ?_ ?_ ?_
  · simp only [Situation.uses, Situation.note, ConnectionPool.detach]
    omega
  · intro member
    exact absurd member (List.count_eq_zero.mp idle)
  · intro kind member
    exact absurd member (not_mem_of_count elsewhere kind)

/-- A session that is finished gives up its connection, and no other session does. -/
theorem count_set_session {session : SessionId} {sessions : List (Option ConnectionId)}
    (member : sessions[session]? = some (some connection)) :
    (sessions.set session none).count (some connection) + 1 = sessions.count (some connection) ∧
      ∀ other ≠ connection,
        (sessions.set session none).count (some other) = sessions.count (some other) := by
  obtain ⟨bound, place⟩ := List.getElem?_eq_some_iff.mp member
  have present : 0 < sessions.count (some connection) :=
    List.count_pos_iff.mpr (place ▸ List.getElem_mem bound)
  constructor
  · rw [List.count_set bound, place]
    simp
    omega
  · intro other apart
    rw [List.count_set bound, place]
    simp [apart.symm]

theorem Sound.alone_session (sound : Sound situation) {session : SessionId}
    (member : situation.sessions[session]? = some (some connection)) :
    situation.pool.idle.count connection = 0 ∧
      (situation.held.map Prod.fst).count connection = 0 ∧
      (situation.sessions.set session none).count (some connection) = 0 ∧
      connection ≤ situation.pool.opened := by
  have once := sound.once connection
  have known := sound.numbered connection
  have count := (count_set_session member).1
  unfold Situation.uses at once known
  refine ⟨by omega, by omega, by omega, known (by omega)⟩

theorem Sound.close (sound : Sound situation) {session : SessionId} {sql : String}
    (member : situation.sessions[session]? = some (some connection))
    (ends : (Message.simple sql).Ends) :
    Sound ({ situation with
      sessions := situation.sessions.set session none,
      held := (connection, .awaiting sql) :: situation.held : Situation }.note connection
        [.sent (.simple sql)]) := by
  obtain ⟨idle, held, gone, known⟩ := sound.alone_session member
  have turn : Turn situation { situation with
      sessions := situation.sessions.set session none,
      held := (connection, .awaiting sql) :: situation.held } connection :=
    ⟨Nat.le_refl _, rfl, by simp, (count_set_session member).2, fun _ _ => rfl⟩
  refine sound.turn (turn.note _) known ?_ ?_ ?_
  · simp only [Situation.uses, Situation.note, List.map_cons, List.count_cons_self]
    omega
  · intro idleMember
    exact absurd idleMember (List.count_eq_zero.mp idle)
  · intro kind heldMember
    rw [Situation.own_note_self]
    rcases List.mem_cons.mp heldMember with same | elsewhere
    · obtain ⟨control, other⟩ := controls_of_ends ends
      cases same
      exact ⟨control, _, rfl, fun begins => absurd begins other⟩
    · exact absurd elsewhere (not_mem_of_count held kind)

theorem Sound.drop (sound : Sound situation) {session : SessionId}
    (member : situation.sessions[session]? = some (some connection)) :
    Sound { situation with
      pool := situation.pool.detach, sessions := situation.sessions.set session none } := by
  obtain ⟨idle, held, gone, known⟩ := sound.alone_session member
  have turn : Turn situation { situation with
      pool := situation.pool.detach,
      sessions := situation.sessions.set session none } connection :=
    ⟨Nat.le_refl _, rfl, rfl, (count_set_session member).2, fun _ _ => rfl⟩
  refine sound.turn turn known ?_ ?_ ?_
  · simp only [Situation.uses, ConnectionPool.detach]
    omega
  · intro idleMember
    exact absurd idleMember (List.count_eq_zero.mp idle)
  · intro kind heldMember
    exact absurd heldMember (not_mem_of_count held kind)

end Steps

/-- Every move keeps the connections sound. -/
theorem Sound.move {before after : Situation} (sound : Sound before) (move : Move before after) :
    Sound after := by
  cases move with
  | lend supply => exact sound.lend supply
  | connect supply => exact sound.connect supply
  | refuse supply => exact sound.refuse
  | speak ordinary placed => exact sound.speak ordinary placed
  | begin position => exact sound.begin position
  | begun position => exact sound.begun position _
  | close member ends => exact sound.close member ends
  | giveBack position leaves => exact sound.giveBack position leaves
  | refuseClose position => exact sound.refuseClose position _
  | drop member => exact sound.drop member

theorem sound_start (maxSize : Nat) : Sound ((Client.start maxSize).situation []) := by
  refine ⟨?_, ?_, ?_, nofun, nofun⟩
  · intro connection
    exact Nat.zero_le 1
  · intro connection used
    exact absurd used (Nat.lt_irrefl 0)
  · intro connection heard
    exact absurd rfl heard

theorem sound_of_reachable {maxSize : Nat} {situation : Situation}
    (reachable : Reachable maxSize situation) : Sound situation := by
  induction reachable with
  | refl => exact sound_start maxSize
  | tail _ move ih => exact ih.move move

end FluentSql.Postgres
