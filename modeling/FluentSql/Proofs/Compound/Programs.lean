import FluentSql.Proofs.Compound.Calls
import FluentSql.Proofs.Compound.Trees
import FluentSql.Proofs.Placeholder.Programs

/-! Programs of builder calls, with the builders of the operands that they join. Where operands
stand in parentheses, programs that render the same statement have joined the same operands in the
same way. Without parentheses the statement tells the selects, the words between them and the
clauses, but not where an operand ends that has operands or clauses of its own. -/
namespace FluentSql.Query

open Compound

/-! The tree of a program grows with its calls. -/

mutual

/-- The operands of a builder after a call. A builder that becomes the column of another one takes
them along. -/
def operandsAfter (dialect : Dialect) (operands : List (Bool × SelectTree)) :
    Step → List (Bool × SelectTree)
  | .union all sub => operands ++ [(all, treeOf dialect sub)]
  | .subQuery _ => []
  | _ => operands

def treeOf (outer : Dialect) : SubQuery → SelectTree
  | .mk dialect? table steps => grown (.node (new ⟨.pool, dialect?.getD outer⟩ table) []) steps

def grown (tree : SelectTree) : List Step → SelectTree
  | [] => tree
  | step :: rest =>
    grown (.node (tree.query.apply step) (operandsAfter tree.query.dialect tree.operands step)) rest

end

/-- The tree of a program on a new builder. -/
def programTree (connection : Connection) (table : String) (steps : List Step) : SelectTree :=
  grown (.node (new connection table) []) steps

theorem query_grown (tree : SelectTree) (steps : List Step) :
    (grown tree steps).query = tree.query.applyAll steps := by
  induction steps generalizing tree with
  | nil => rfl
  | cons step rest ih => exact ih _

theorem query_treeOf (outer : Dialect) (sub : SubQuery) :
    (treeOf outer sub).query = ofSubQuery outer sub := by
  cases sub with
  | mk dialect? table steps => exact query_grown _ steps

theorem query_programTree (connection : Connection) (table : String) (steps : List Step) :
    (programTree connection table steps).query = (new connection table).applyAll steps :=
  query_grown _ steps

/-! Only two calls change the operands of a builder. -/

theorem operands_fail (query : Query) (error : Error) :
    (query.fail error).operands = query.operands := by
  rw [fail_eq]

theorem operands_absorb (query other : Query) :
    (query.absorb other).operands = query.operands := by
  rw [absorb_eq]

theorem operands_apply {query : Query} {operands : List (Bool × SelectTree)}
    (composed : query.operands = operands.map operandOf) (step : Step) :
    (query.apply step).operands =
      (operandsAfter query.dialect operands step).map operandOf := by
  cases step with
  | union all sub =>
    have joined : (query.apply (.union all sub)).operands = query.operands ++
        [operandOf (all, treeOf query.dialect sub)] := by
      rw [operandOf, query_treeOf]
      exact congrArg (· ++ _) (operands_absorb query _)
    rw [joined, operandsAfter, List.map_append, composed]
    rfl
  | subQuery label => rfl
  | selectSub sub label => exact (operands_absorb query _).trans composed
  | whereSubQuery column op sub => exact (operands_absorb query _).trans composed
  | whereIn column values =>
    refine Eq.trans ?_ composed
    simp only [Query.apply, Query.whereIn]
    split <;> rfl
  | whereNotIn column values =>
    refine Eq.trans ?_ composed
    simp only [Query.apply, Query.whereNotIn]
    split <;> rfl
  | whereDate condition =>
    refine Eq.trans ?_ composed
    simp only [Query.apply, Query.whereDate]
    split
    · rfl
    · exact operands_fail query _
  | orderBy column direction =>
    refine Eq.trans ?_ composed
    simp only [Query.apply, Query.addOrder]
    split
    · rfl
    · exact operands_fail query _
  | lockModifier modifier =>
    refine Eq.trans ?_ composed
    simp only [Query.apply, Query.lockModifier]
    split
    · rfl
    · exact operands_fail query _
  | _ => exact composed

/-- A builder to start from has no operands yet. -/
theorem fits_new (connection : Connection) {table : String} (plain : Plain table) :
    (SelectTree.node (new connection table) []).All Fits :=
  ⟨⟨rfl, plainTexts_new connection plain⟩, trivial⟩

theorem allOf_append {property : Query → List (Bool × SelectTree) → Prop}
    {operands : List (Bool × SelectTree)} (each : AllOf property operands) (all : Bool)
    {tree : SelectTree} (last : tree.All property) :
    AllOf property (operands ++ [(all, tree)]) := by
  induction operands with
  | nil => exact ⟨last, trivial⟩
  | cons operand rest ih => exact ⟨each.1, ih each.2⟩

mutual

theorem fits_operandsAfter (dialect : Dialect) {operands : List (Bool × SelectTree)}
    (fits : AllOf Fits operands) (step : Step) (plain : step.PlainTexts) :
    AllOf Fits (operandsAfter dialect operands step) := by
  cases step with
  | union all sub => exact allOf_append fits all (fits_treeOf dialect sub plain)
  | subQuery _ => exact trivial
  | _ => exact fits

theorem fits_treeOf (outer : Dialect) (sub : SubQuery) (plain : sub.PlainTexts) :
    (treeOf outer sub).All Fits := by
  match sub with
  | .mk dialect? table steps =>
    exact fits_grown _ (fits_new _ plain.1) steps plain.2

/-- Calls with plain texts make a tree of builders that fit. -/
theorem fits_grown (tree : SelectTree) (fits : tree.All Fits) (steps : List Step)
    (plain : AllPlain steps) : (grown tree steps).All Fits := by
  match tree, steps with
  | _, [] => exact fits
  | .node query operands, step :: rest =>
    have next : (SelectTree.node (query.apply step)
        (operandsAfter query.dialect operands step)).All Fits :=
      ⟨⟨operands_apply fits.1.composed step, fits.1.plain.apply step plain.1⟩,
        fits_operandsAfter query.dialect fits.2 step plain.1⟩
    exact fits_grown _ next rest plain.2

end

/-! Programs without SQLite. -/

mutual

/-- No builder that is joined as an operand is of a dialect without parentheses around operands. -/
def Step.WrapsOperands : Step → Prop
  | .union _ sub => sub.WrapsOperands
  | .withTransaction connection => connection.dialect.wrapsOperands = true
  | _ => True

def SubQuery.WrapsOperands : SubQuery → Prop
  | .mk dialect? _ steps =>
    (∀ dialect ∈ dialect?, dialect.wrapsOperands = true) ∧ AllWrapOperands steps

def AllWrapOperands : List Step → Prop
  | [] => True
  | step :: rest => step.WrapsOperands ∧ AllWrapOperands rest

end

theorem dialect_wraps_apply {query : Query} (wraps : query.dialect.wrapsOperands = true)
    (step : Step) (own : step.WrapsOperands) :
    (query.apply step).dialect.wrapsOperands = true := by
  rw [dialect_apply]
  cases step with
  | withTransaction connection => exact own
  | _ => exact wraps

mutual

theorem wraps_operandsAfter {dialect : Dialect} (wraps : dialect.wrapsOperands = true)
    {operands : List (Bool × SelectTree)} (each : AllOf Wraps operands) (step : Step)
    (own : step.WrapsOperands) : AllOf Wraps (operandsAfter dialect operands step) := by
  cases step with
  | union all sub => exact allOf_append each all (wraps_treeOf wraps sub own)
  | subQuery _ => exact trivial
  | _ => exact each

theorem wraps_treeOf {outer : Dialect} (wraps : outer.wrapsOperands = true) (sub : SubQuery)
    (own : sub.WrapsOperands) : (treeOf outer sub).All Wraps := by
  match sub with
  | .mk dialect? table steps =>
    have start : (new ⟨.pool, dialect?.getD outer⟩ table).dialect.wrapsOperands = true := by
      cases dialect? with
      | none => exact wraps
      | some dialect => exact own.1 dialect rfl
    have none : AllOf Wraps [] := trivial
    exact wraps_grown start none steps own.2

/-- Where no SQLite builder is joined, every compound has its operands in parentheses. -/
theorem wraps_grown {query : Query} (wraps : query.dialect.wrapsOperands = true)
    {operands : List (Bool × SelectTree)} (each : AllOf Wraps operands) (steps : List Step)
    (own : AllWrapOperands steps) : (grown (.node query operands) steps).All Wraps := by
  match steps with
  | [] => exact ⟨Or.inr wraps, each⟩
  | step :: rest =>
    exact wraps_grown (dialect_wraps_apply wraps step own.1)
      (wraps_operandsAfter wraps each step own.1) rest own.2

end

/-- The statement of a program tells the structure of its compound. What is written are the items of
its tree, and a program with the same statement has the same items: the same selects, words that
join them and clauses, in the same order. Where operands stand in parentheses, as they do wherever
no SQLite builder is joined, it also has the same structure: the same operands, nested and joined in
the same way, and every clause at the same operand or whole. -/
theorem compounds_keep_structure (connection other : Connection) (table target : String)
    (steps calls : List Step) (plain : Plain table) (plain' : Plain target)
    (own : AllPlain steps) (own' : AllPlain calls)
    (same : ((new connection table).applyAll steps).render.sql =
      ((new other target).applyAll calls).render.sql) :
    (writtenAll (programTree connection table steps).items =
        ((new connection table).applyAll steps).render.sql.toList ∧
      (programTree connection table steps).items = (programTree other target calls).items) ∧
    ((programTree connection table steps).All Wraps → (programTree other target calls).All Wraps →
      (programTree connection table steps).shape = (programTree other target calls).shape) ∧
    (connection.dialect.wrapsOperands = true → AllWrapOperands steps →
      (programTree connection table steps).All Wraps) := by
  have fits : (programTree connection table steps).All Fits :=
    fits_grown _ (fits_new connection plain) steps own
  have fits' : (programTree other target calls).All Fits :=
    fits_grown _ (fits_new other plain') calls own'
  have written := written_items _ fits
  rw [query_programTree] at written
  rw [← query_programTree, ← query_programTree] at same
  have items := items_eq_of_render_eq fits fits' same
  refine ⟨⟨written, items⟩, ?_, ?_⟩
  · intro wraps wraps'
    exact shape_unique _ _ fits fits' wraps wraps' items
  · intro wraps unjoined
    have none : AllOf Wraps [] := trivial
    have start : (new connection table).dialect.wrapsOperands = true := wraps
    exact wraps_grown start none steps unjoined

theorem compounds_keep_structure_limits :
    (programTree ⟨.pool, .mySql⟩ "users"
        [.limit 5, .union false (.mk none "admins" [.limit 1])]).shape =
      (programTree ⟨.pool, .mySql⟩ "users"
        [.union false (.mk none "admins" [.limit 1]), .limit 5]).shape := by
  have users : Plain "users" := leads (by decide)
  have admins : Plain "admins" := leads (by decide)
  obtain ⟨_, shapes, wraps⟩ := compounds_keep_structure ⟨.pool, .mySql⟩ ⟨.pool, .mySql⟩
    "users" "users" [.limit 5, .union false (.mk none "admins" [.limit 1])]
    [.union false (.mk none "admins" [.limit 1]), .limit 5] users users
    ⟨trivial, ⟨admins, trivial, trivial⟩, trivial⟩ ⟨⟨admins, trivial, trivial⟩, trivial, trivial⟩
    rfl
  exact shapes (wraps rfl ⟨trivial, ⟨nofun, trivial, trivial⟩, trivial⟩)
    ⟨Or.inr rfl, ⟨Or.inl rfl, trivial⟩, trivial⟩

/-- Without parentheses the limit of the last operand reads as that of the whole. -/
theorem limit_of_operand_or_whole :
    ((new ⟨.pool, .sqlite⟩ "users").applyAll
          [.union false (.mk none "admins" [.limit 1])]).render.sql =
        "SELECT * FROM users UNION SELECT * FROM admins LIMIT 1" ∧
      ((new ⟨.pool, .sqlite⟩ "users").applyAll
          [.union false (.mk none "admins" []), .limit 1]).render.sql =
        "SELECT * FROM users UNION SELECT * FROM admins LIMIT 1" ∧
      (programTree ⟨.pool, .sqlite⟩ "users" [.union false (.mk none "admins" [.limit 1])]).shape ≠
        (programTree ⟨.pool, .sqlite⟩ "users"
          [.union false (.mk none "admins" []), .limit 1]).shape := by
  refine ⟨by decide, by decide, ?_⟩
  intro same
  have clauses := (Shape.compound.inj same).2.2
  exact absurd clauses (by decide)

end FluentSql.Query
