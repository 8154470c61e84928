import FluentSql.Proofs.Pagination
import FluentSql.Proofs.Query.Terminals
import FluentSql.Proofs.Query.Totals

/-! Pages of a builder: what they report, and the statement that reads one. -/
namespace FluentSql

theorem Task.between_of_bind_done {σ α β : Type} {task : Task σ α} {next : α → Task σ β}
    {world : World σ} {value : β} (done : ((task >>= next) world).1 = .done value) :
    ∃ between after, task world = (.done between, after) ∧
      (next between after).1 = .done value := by
  rw [bind_apply] at done
  cases run : task world with
  | mk ending after =>
    rw [run] at done
    cases ending with
    | done between => exact ⟨between, after, rfl, done⟩
    | _ => cases done

namespace Query

/-- The builder without a limit, an offset and a lock. -/
def unlimited (query : Query) : Query :=
  { query with limit? := none, offset? := none, lock? := none }

/-- The select of a builder with a limit and an offset in place of its own. -/
def windowed (query : Query) (limit offset : Nat) : Statement where
  sql := query.unlimited.render.sql ++ " LIMIT " ++ Text.natText limit ++ " OFFSET " ++
    Text.natText offset ++ (if query.operands.isEmpty then query.lockClause else "")
  args := query.unlimited.render.args

theorem render_page (query : Query) (number perPage : UInt64) :
    (query.page number perPage).render =
      query.windowed perPage.toNat (Pagination.offsetOf number perPage).toNat := by
  have lockless : query.unlimited.lockClause = "" := rfl
  have alike : (query.page number perPage).ranging (query.page number perPage).selection =
      query.unlimited.ranging query.unlimited.selection := rfl
  have ends : (query.page number perPage).ending =
      query.unlimited.orderClause ++ " LIMIT " ++ Text.natText perPage.toNat ++ " OFFSET " ++
        Text.natText (Pagination.offsetOf number perPage).toNat ++
        (if query.operands.isEmpty then query.lockClause else "") := by
    simp only [ending, orderClause, page, setLimit, setOffset, unlimited, String.append_empty,
      String.append_assoc]
    rfl
  rw [windowed, render_eq_ranging, render_eq_ranging query.unlimited, alike, ends, ending,
    lockless, ite_self, String.append_empty]
  simp only [String.append_assoc]

theorem countStatement_eq_ok_iff {query : Query} {statement : Statement} :
    query.countStatement = .ok statement ↔ query.Renders ∧ statement = query.renderCount := by
  constructor
  · intro counts
    cases checked : query.check with
    | error error =>
      rw [countStatement, checked] at counts
      cases counts
    | ok _ =>
      cases required : query.requireSelection with
      | error error =>
        rw [countStatement, checked, required] at counts
        cases counts
      | ok _ =>
        have renders : query.Renders := ⟨checked, required⟩
        rw [renders.countStatement_eq] at counts
        exact ⟨renders, (Except.ok.inj counts).symm⟩
  · rintro ⟨renders, rfl⟩
    exact renders.countStatement_eq

section Counted

variable {σ : Type} [Backend σ] {query : Query} {context : Context} {world counted : World σ}
  {total : UInt64}

/-- A builder that is refused counts nothing. -/
theorem renders_of_counted (run : query.count context world = (.done total, counted)) :
    query.Renders := by
  cases rendered : query.countStatement with
  | ok statement => exact (countStatement_eq_ok_iff.mp rendered).1
  | error error =>
    have refused := refuses_fetchScalar (α := UInt64) query context rendered world
    rw [count, refused] at run
    cases run

variable {α : Type} [FromRow α]

/-- With the rows counted, a page that is there is read. -/
theorem paginate_of_present (run : query.count context world = (.done total, counted))
    {number perPage : UInt64}
    (present : Pagination.Present total perPage (Pagination.clamp number)) :
    (query.paginate context number perPage : Task σ (Pagination α)) world =
      ((query.page (Pagination.clamp number) (Pagination.clamp perPage)).get context >>=
        fun data => pure ⟨data, total, Pagination.clamp perPage, Pagination.clamp number,
          Pagination.lastPageOf total perPage⟩) counted := by
  have asked := mt (Pagination.past_iff total perPage number).mp (not_not_intro present)
  rw [paginate, Task.bind_of_done run, Pagination.lastPageOf_clamp]
  exact congrFun (if_neg asked) counted

theorem paginate_of_absent (run : query.count context world = (.done total, counted))
    {number perPage : UInt64}
    (absent : ¬ Pagination.Present total perPage (Pagination.clamp number)) :
    (query.paginate context number perPage : Task σ (Pagination α)) world =
      (.done ⟨[], total, Pagination.clamp perPage, Pagination.clamp number,
        Pagination.lastPageOf total perPage⟩, counted) := by
  have unasked := (Pagination.past_iff total perPage number).mpr absent
  rw [paginate, Task.bind_of_done run, Pagination.lastPageOf_clamp]
  exact congrFun (if_pos unasked) counted

/-- Without a number of rows no page is asked for. -/
theorem paginate_of_uncounted (query : Query) (context : Context) (number perPage : UInt64)
    (world : World σ) (uncounted : ∀ total, (query.count context world).1 ≠ .done total) :
    ((query.paginate context number perPage : Task σ (Pagination α)) world).2 =
      (query.count context world).2 := by
  rw [paginate]
  rcases Task.bind_cases (query.count context) _ world with ⟨total, counted, run, _⟩ | same
  · exact absurd (congrArg Prod.fst run) (uncounted total)
  · exact same

end Counted

section Windows

variable {σ α : Type} [Backend σ] [CacheBlind σ] [FromRow α]

/-- What a builder answers for a page and executes behind its count, by the numbers asked for. -/
structure Paginates (query : Query) (context : Context) (number perPage total : UInt64)
    (counted : World (Ledger σ)) (result : Ending (Pagination α) × World (Ledger σ)) : Prop where
  reported : ∀ page, result.1 = .done page →
    page.total = total ∧
    page.currentPage.toNat = max 1 number.toNat ∧
    page.perPage.toNat = max 1 perPage.toNat ∧
    page.lastPage.toNat = total.toNat ⌈/⌉ max 1 perPage.toNat
  offset : max 1 number.toNat ≤ total.toNat ⌈/⌉ max 1 perPage.toNat →
    (Pagination.offsetOf number perPage).toNat =
        (max 1 number.toNat - 1) * max 1 perPage.toNat ∧
      (Pagination.offsetOf number perPage).toNat < total.toNat
  read : max 1 number.toNat ≤ total.toNat ⌈/⌉ max 1 perPage.toNat →
    query.Executes context
      (.ok (query.windowed (max 1 perPage.toNat)
        ((max 1 number.toNat - 1) * max 1 perPage.toNat)))
      counted result.2
  handed : max 1 number.toNat ≤ total.toNat ⌈/⌉ max 1 perPage.toNat → ∀ rows after,
    (query.page (Pagination.clamp number) (Pagination.clamp perPage)).get context counted =
        (.done rows, after) →
      ∃ page, result = (.done page, after) ∧ page.data = rows
  unread : total.toNat ⌈/⌉ max 1 perPage.toNat < max 1 number.toNat →
    ∃ page, result = (.done page, counted) ∧ page.data = []

theorem offset_of_present {total number : UInt64} (perPage : UInt64)
    (present : Pagination.Present total perPage (Pagination.clamp number)) :
    (Pagination.offsetOf number perPage).toNat =
        (max 1 number.toNat - 1) * max 1 perPage.toNat ∧
      (Pagination.offsetOf number perPage).toNat < total.toNat := by
  have offset := Pagination.toNat_offsetOf present
  have same : Pagination.offsetOf (Pagination.clamp number) perPage =
      Pagination.offsetOf number perPage := by
    rw [Pagination.offsetOf, Pagination.clamp_clamp]
    rfl
  rwa [same, Pagination.toNat_clamp, Pagination.toNat_clamp] at offset

/-- The statement of a page that is there, with its numbers. -/
theorem toSql_page {query : Query} (renders : query.Renders) {total number perPage : UInt64}
    (present : Pagination.Present total perPage (Pagination.clamp number)) :
    (query.page (Pagination.clamp number) (Pagination.clamp perPage)).toSql =
      .ok (query.windowed (max 1 perPage.toNat)
        ((max 1 number.toNat - 1) * max 1 perPage.toNat)) := by
  apply toSql_eq_ok_iff.mpr
  refine ⟨renders, ?_⟩
  rw [render_page, Pagination.offsetOf_clamp, Pagination.toNat_clamp,
    (offset_of_present perPage present).1]

omit [Backend σ] [CacheBlind σ] in
/-- A page is read on the connection of its builder and through its cache. -/
theorem Executes.of_page {query : Query} {context : Context} {number perPage : UInt64}
    {rendered : Except Error Statement} {world after : World (Ledger σ)}
    (executes : (query.page number perPage).Executes context rendered world after) :
    query.Executes context rendered world after :=
  ⟨executes.failed, executes.spared, executes.sent⟩

theorem paginates (query : Query) (context : Context) (number perPage : UInt64)
    {world counted : World (Ledger σ)} {total : UInt64}
    (run : query.count context world = (.done total, counted)) :
    query.Paginates context number perPage total counted
      ((query.paginate context number perPage : Task (Ledger σ) (Pagination α)) world) where
  reported page done := by
    have numbers : page.total = total ∧ page.currentPage = Pagination.clamp number ∧
        page.perPage = Pagination.clamp perPage ∧
        page.lastPage = Pagination.lastPageOf total perPage := by
      by_cases present : Pagination.Present total perPage (Pagination.clamp number)
      · rw [paginate_of_present run present] at done
        obtain ⟨rows, after, _, whole⟩ := Task.between_of_bind_done done
        cases whole
        exact ⟨rfl, rfl, rfl, rfl⟩
      · rw [paginate_of_absent run present] at done
        cases done
        exact ⟨rfl, rfl, rfl, rfl⟩
    obtain ⟨same, current, size, last⟩ := numbers
    rw [current, size, last, Pagination.toNat_clamp, Pagination.toNat_clamp,
      Pagination.toNat_lastPageOf, Pagination.toNat_clamp]
    exact ⟨same, rfl, rfl, rfl⟩
  offset inside :=
    offset_of_present perPage ((Pagination.present_clamp_iff total perPage number).mpr inside)
  read inside := by
    have present := (Pagination.present_clamp_iff total perPage number).mpr inside
    have executes := executes_get (α := α)
      (query.page (Pagination.clamp number) (Pagination.clamp perPage)) context counted
    rw [toSql_page (renders_of_counted run) present] at executes
    rw [paginate_of_present run present, Task.world_bind_of_idle _ fun _ => Task.idle_pure _]
    exact executes.of_page
  handed inside rows after answered := by
    have present := (Pagination.present_clamp_iff total perPage number).mpr inside
    rw [paginate_of_present run present, Task.bind_of_done answered]
    exact ⟨_, rfl, rfl⟩
  unread outside := by
    have absent := mt (Pagination.present_clamp_iff total perPage number).mp
      (Nat.not_le_of_lt outside)
    rw [paginate_of_absent run absent]
    exact ⟨_, rfl, rfl⟩

/-- For every builder with a number of rows a page reports the numbers that are asked for, at least
one, and the quotient rounded up. A page within the last has its statement read, with its own limit
and offset in place of those of the builder, and any other has none read. The pages of a result part
its rows. -/
theorem pages_hold_every_row_once (query : Query) (context : Context) (number perPage : UInt64)
    (world : World (Ledger σ)) :
    (∀ total counted, query.count context world = (.done total, counted) →
      query.Paginates context number perPage total counted
        ((query.paginate context number perPage : Task (Ledger σ) (Pagination α)) world)) ∧
    ((∀ total, (query.count context world).1 ≠ .done total) →
      ((query.paginate context number perPage : Task (Ledger σ) (Pagination α)) world).2 =
        (query.count context world).2) ∧
    ∀ total, Pagination.Parted total perPage :=
  ⟨fun _ _ run => paginates query context number perPage run,
    paginate_of_uncounted query context number perPage world,
    fun total => Pagination.parted total perPage⟩

end Windows

/-- Users under a limit and an offset of their own. -/
def someUsers : Query := ((new ⟨.pool, .mySql⟩ "users").setLimit 5).setOffset 7

/-- A backend that counts so many rows first, behind a driver in use. -/
def counting (total : Int64) : World (Ledger Recorder) :=
  { World.start ⟨{ Recorder.empty with rows := [.ok [⟨["count"], [.int total]⟩]] }, []⟩ with
    cache := Cache.empty.activate 0 }

theorem pages_hold_every_row_once_last :
    ∃ rows?, ((someUsers.paginate .background 3 10 :
        Task (Ledger Recorder) (Pagination Row)) (counting 23)).2.backend.executions =
      (someUsers.count .background (counting 23)).2.backend.executions ++
        [⟨none, "SELECT * FROM users LIMIT 10 OFFSET 20", [], rows?⟩] := by
  have law := pages_hold_every_row_once (σ := Recorder) (α := Row) someUsers .background 3 10
    (counting 23)
  have counted : someUsers.count .background (counting 23) =
      (.done 23, (someUsers.count .background (counting 23)).2) := rfl
  have paginates := law.1 23 _ counted
  have inside : max 1 (3 : UInt64).toNat ≤ (23 : UInt64).toNat ⌈/⌉ max 1 (10 : UInt64).toNat := by
    decide
  have rendered : someUsers.windowed 10 20 = ⟨"SELECT * FROM users LIMIT 10 OFFSET 20", []⟩ := by
    decide
  have needed : ¬ someUsers.Spared .background ⟨"SELECT * FROM users LIMIT 10 OFFSET 20", []⟩
      (someUsers.count .background (counting 23)).2 := by
    rintro (refused | ⟨_, _, _, _, timed, _⟩)
    · exact refused rfl
    · cases timed
  obtain ⟨rows?, executions⟩ :=
    (paginates.read inside).sent _ (congrArg Except.ok rendered) needed
  exact ⟨rows?, executions⟩

/-- The same users, remembered, when their first page has been asked for. -/
def revisited : World (Ledger Recorder) :=
  (((someUsers.remember ⟨60⟩).paginate .background 1 2 :
    Task (Ledger Recorder) (Pagination Row)) (counting 3)).2

/-- A page that the driver in use holds is not executed, though it is within the last. -/
theorem not_every_page_is_executed :
    ¬ ∀ (query : Query) (context : Context) (number perPage total : UInt64)
        (world counted : World (Ledger Recorder)),
      query.count context world = (.done total, counted) →
      max 1 number.toNat ≤ total.toNat ⌈/⌉ max 1 perPage.toNat →
      ∃ execution, ((query.paginate context number perPage :
          Task (Ledger Recorder) (Pagination Row)) world).2.backend.executions =
        counted.backend.executions ++ [execution] := by
  intro claim
  have run : (someUsers.remember ⟨60⟩).count .background revisited =
      (.done 3, ((someUsers.remember ⟨60⟩).count .background revisited).2) := rfl
  obtain ⟨execution, executed⟩ := claim (someUsers.remember ⟨60⟩) .background 1 2 3 revisited _ run
    (by decide)
  have held : (((someUsers.remember ⟨60⟩).paginate .background 1 2 :
      Task (Ledger Recorder) (Pagination Row)) revisited).2.backend.executions =
    ((someUsers.remember ⟨60⟩).count .background revisited).2.backend.executions := by
    decide +kernel
  rw [held] at executed
  have longer := congrArg List.length executed
  simp at longer

end Query
end FluentSql
