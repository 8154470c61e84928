import FluentSql.Proofs.Predicate.Precedence
import FluentSql.Proofs.Query.Dispatch

/-! Looking a row up by its identity. The condition on the identity comes behind the conditions that
there are, joined by AND, and so narrows their last alternative. Rows of the alternatives in front
of that are found whatever their identity is. -/
namespace FluentSql

namespace Formula

/-- A formula that holds of nothing without a clause. -/
def Requires (formula : Formula) (leaf : Fragment) : Prop :=
  ∀ truth : Fragment → Prop, formula.Holds truth → truth leaf

theorem holds_narrowed (truth : Fragment → Prop) (formula conjunct : Formula) :
    (formula.narrowed conjunct).Holds truth ↔
      (∃ before ∈ formula.earlier?, before.Holds truth) ∨
        formula.Holds truth ∧ conjunct.Holds truth := by
  cases formula with
  | or before last =>
    simp only [narrowed, earlier?, Holds, Option.mem_some_iff, exists_eq_left']
    constructor
    · rintro (early | ⟨own, behind⟩)
      · exact Or.inl early
      · exact Or.inr ⟨Or.inr own, behind⟩
    · rintro (early | ⟨early | own, behind⟩)
      · exact Or.inl early
      · exact Or.inl early
      · exact Or.inr ⟨own, behind⟩
  | _ => simp [narrowed, Holds, earlier?]

theorem earlier_narrowed (formula conjunct : Formula) :
    (formula.narrowed conjunct).earlier? = formula.earlier? := by
  cases formula <;> rfl

/-- A clause behind the rest is required exactly where every alternative in front of the last one
requires it. -/
theorem requires_narrowed_iff (formula : Formula) (leaf : Fragment) :
    (formula.narrowed (.clause leaf)).Requires leaf ↔
      ∀ before ∈ formula.earlier?, before.Requires leaf := by
  constructor
  · intro required before member truth holds
    exact required truth ((holds_narrowed truth formula _).mpr (Or.inl ⟨before, member, holds⟩))
  · intro required truth holds
    rcases (holds_narrowed truth formula _).mp holds with ⟨before, member, early⟩ | ⟨_, last⟩
    · exact required before member truth early
    · exact last

end Formula

namespace Query

/-- The clause that asks for an identity. -/
def identity (id : Value) : Fragment := ⟨"id = ?", [id]⟩

/-- What a select shows in front of its conditions. -/
def lead (query : Query) : String :=
  (if query.operands.isEmpty || !query.dialect.wrapsOperands then "" else "(") ++
    ("SELECT " ++ query.columnList ++ query.fromClause)

theorem render_of_shown (query : Query) (shown : query.conditions.text ≠ "") :
    ∃ tail, query.render.sql = query.lead ++ " WHERE " ++ query.conditions.text ++ tail := by
  have filtered : query.whereClause = " WHERE " ++ query.conditions.text := if_neg shown
  by_cases alone : query.operands.isEmpty = true
  · refine ⟨query.groupClause ++ query.orderClause ++ query.lockClause, ?_⟩
    simp only [render, lead, core, alone, filtered, ↓reduceIte, Bool.true_or, String.append_assoc,
      String.empty_append]
  · let behind := (query.operands.map (operandText query.dialect)).foldl (· ++ ·) "" ++
      query.orderClause
    by_cases wraps : query.dialect.wrapsOperands = true
    · refine ⟨query.groupClause ++ ")" ++ behind, ?_⟩
      simp only [render, lead, core, wrapped, alone, wraps, filtered, behind, ↓reduceIte,
        Bool.not_true, Bool.or_false, Bool.false_eq_true, String.append_assoc]
    · refine ⟨query.groupClause ++ behind, ?_⟩
      simp only [render, lead, core, wrapped, alone, wraps, filtered, behind, ↓reduceIte,
        Bool.not_false, Bool.or_true, Bool.false_eq_true, String.append_assoc, String.empty_append]

section Lookup

variable (query : Query) (id : Value)

theorem tokens_whereId : (query.whereId id).conditions.tokens =
    if query.conditions.tokens = [] then [.clause (identity id)]
    else query.conditions.tokens ++ [.connector .and, .clause (identity id)] :=
  query.conditions.tokens_and (by decide) [id]

theorem text_whereId_ne_empty : (query.whereId id).conditions.text ≠ "" := by
  simp [whereId, andWhere, Conditions.and, Conditions.text, Predicate.textFrom_append,
    Predicate.textFrom, Predicate.joined_eq_empty_iff, Predicate.text]

/-- What the conditions of a lookup mean: the identity belongs to the last alternative of the
conditions that the builder has. -/
structure Sought (formula : Formula) : Prop where
  reads : Reads .alternatives (query.whereId id).conditions.tokens formula
  alone : query.conditions.tokens = [] → formula = .clause (identity id)
  behind : ∀ own, Reads .alternatives query.conditions.tokens own →
    formula = own.narrowed (.clause (identity id))
  requires_iff : formula.Requires (identity id) ↔
    ∀ before ∈ formula.earlier?, before.Requires (identity id)

theorem sought_exists : ∃ formula, query.Sought id formula := by
  by_cases shown : query.conditions.tokens = []
  · have single := tokens_whereId query id
    rw [if_pos shown] at single
    refine ⟨.clause (identity id), ?_, fun _ => rfl, ?_, ?_⟩
    · rw [single]
      exact .conjunction (.unit (.clause _))
    · intro own reads
      exact absurd shown (tokens_ne_nil_of_reads reads)
    · simp [Formula.Requires, Formula.Holds, Formula.earlier?]
  · obtain ⟨own, reads⟩ := Conditions.reads_tokens shown
    refine ⟨own.narrowed (.clause (identity id)), ?_, fun absent => absurd absent shown, ?_, ?_⟩
    · rw [tokens_whereId, if_neg shown]
      exact reads.narrowed (.clause _)
    · intro other reads'
      rw [reads_unique reads reads']
    · rw [Formula.earlier_narrowed]
      exact Formula.requires_narrowed_iff own (identity id)

/-- Where no condition is an alternative to others, a lookup asks for the identity. -/
theorem Sought.requires {query : Query} {id : Value} {formula : Formula}
    (sought : query.Sought id formula)
    (only : ∀ condition ∈ query.conditions, condition.shows = true →
      condition.connector = .and) : formula.Requires (identity id) := by
  apply sought.requires_iff.mpr
  have conjunction := Predicate.conjunction_tokensFrom [] (Or.inl rfl) (query.whereId id).conditions
    (by
      intro condition member shown
      rcases List.mem_append.mp member with own | last
      · exact only condition own shown
      · rw [List.mem_singleton.mp last]
        rfl)
  rcases conjunction with absent | ⟨other, reads⟩
  · have written := (query.whereId id).conditions.written_tokens
    rw [Conditions.tokens, absent] at written
    exact absurd written.symm (text_whereId_ne_empty query id)
  · rw [reads_unique sought.reads (.conjunction reads), not_or_of_conjunction reads]
    intro before early
    exact absurd early (Option.not_mem_none before)

end Lookup

/-- A lookup shows the identity behind the conditions that there are, and its conditions read in one
way: the last alternative has the identity as one more conjunct, those in front of it do not. So it
asks for the identity where the conditions are not alternatives, and otherwise exactly where each
alternative in front does so itself. What it shows is what it executes. -/
theorem find_narrows_last_alternative (query : Query) (id : Value) :
    (∀ rendered, query.toSql = .ok rendered →
      ∃ statement tail, (query.whereId id).firstStatement = .ok statement ∧
        statement.sql = query.lead ++ " WHERE " ++
          written (query.whereId id).conditions.tokens ++ tail) ∧
    (∃ formula, query.Sought id formula ∧
      (∀ other, Reads .alternatives (query.whereId id).conditions.tokens other →
        other = formula) ∧
      ((∀ condition ∈ query.conditions, condition.shows = true → condition.connector = .and) →
        formula.Requires (identity id))) ∧
    ∀ {σ α : Type} [Backend σ] [CacheBlind σ] [FromRow α] (context : Context)
      (world : World (Ledger σ)),
      (query.whereId id).Executes context (query.whereId id).firstStatement world
        ((query.find context id : Task (Ledger σ) (Option α)) world).2 := by
  refine ⟨?_, ?_, ?_⟩
  · intro rendered renders
    obtain ⟨tail, shown⟩ := render_of_shown ((query.whereId id).setLimit 1)
      (text_whereId_ne_empty query id)
    have own := (toSql_eq_ok_iff.mp renders).1
    refine ⟨_, tail, ((renders_whereId query id).mpr own).firstStatement_eq, ?_⟩
    rw [shown, Conditions.written_tokens]
    rfl
  · obtain ⟨formula, sought⟩ := sought_exists query id
    exact ⟨formula, sought, fun other reads => reads_unique reads sought.reads, sought.requires⟩
  · intro σ α _ _ _ context world
    exact executes_find query context id world

theorem find_narrows_last_alternative_conjunction :
    ∃ formula, Reads .alternatives
        [.clause ⟨"active = ?", [.bool true]⟩, .connector .and, .clause (identity (.int 7))]
        formula ∧
      formula.Requires (identity (.int 7)) := by
  obtain ⟨_, ⟨formula, sought, _, required⟩, _⟩ := find_narrows_last_alternative
    ((new ⟨.pool, .mySql⟩ "users").andWhere "active = ?" [.bool true]) (.int 7)
  refine ⟨formula, ?_, required (by decide)⟩
  have tokens : (((new ⟨.pool, .mySql⟩ "users").andWhere "active = ?" [.bool true]).whereId
      (.int 7)).conditions.tokens =
        [.clause ⟨"active = ?", [.bool true]⟩, .connector .and, .clause (identity (.int 7))] := by
    decide
  rw [← tokens]
  exact sought.reads

/-- Users that are active, or administrators. -/
def activeOrAdmin : Query :=
  ((new ⟨.pool, .mySql⟩ "users").andWhere "active = ?" [.bool true]).orWhere "role = ?"
    [.text "admin"]

/-- A lookup among them finds every active user. -/
theorem lookup_behind_alternatives :
    (activeOrAdmin.whereId (.int 7)).firstStatement =
        .ok ⟨"SELECT * FROM users WHERE active = ? OR role = ? AND id = ? LIMIT 1",
          [.bool true, .text "admin", .int 7]⟩ ∧
      ¬ ∀ formula, Reads .alternatives (activeOrAdmin.whereId (.int 7)).conditions.tokens formula →
        formula.Requires (identity (.int 7)) := by
  constructor
  · refine Renders.firstStatement_eq ⟨rfl, rfl⟩ |>.trans (congrArg Except.ok ?_)
    decide
  · intro required
    have reads : Reads .alternatives (activeOrAdmin.whereId (.int 7)).conditions.tokens
        (.or (.clause ⟨"active = ?", [.bool true]⟩)
          (.and (.clause ⟨"role = ?", [.text "admin"]⟩) (.clause (identity (.int 7))))) := by
      have before : Reads .alternatives [.clause ⟨"active = ?", [.bool true]⟩] _ :=
        .conjunction (.unit (.clause _))
      have last : Reads .conjunction [.clause ⟨"role = ?", [.text "admin"]⟩, .connector .and,
          .clause (identity (.int 7))] _ := .and (.unit (.clause _)) (.clause _)
      exact .or before last
    have holds := required _ reads (fun leaf => leaf.sql = "active = ?") (Or.inl rfl)
    exact absurd holds (by decide)

end Query
end FluentSql
