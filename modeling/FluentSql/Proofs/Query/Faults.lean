import FluentSql.Proofs.Placeholder.Programs

/-! Construction errors of a program of builder calls. The first of them, with those of the builders
inside at the call that takes them in, is the error of the builder. -/
namespace FluentSql.Query

/-- What a later call may be refused for: the dialect, and whether a lock is held. -/
structure Stage where
  dialect : Dialect
  locked : Bool
  deriving DecidableEq

def stage (query : Query) : Stage := ⟨query.dialect, query.lock?.isSome⟩

def IsDirection (direction : String) : Prop :=
  String.ofList ((Text.trim direction.toList).map Char.toUpper) ∈ ["ASC", "DESC"]

instance (direction : String) : Decidable (IsDirection direction) :=
  inferInstanceAs (Decidable (_ ∈ _))

/-- A builder that becomes a column of a new one gives up its lock. -/
def Step.stageAfter (stage : Stage) (step : Step) : Stage where
  dialect := step.dialectAfter stage.dialect
  locked := match step with
    | .lock _ => true
    | .subQuery _ => false
    | _ => stage.locked

mutual

/-- The error that a call adds, be it its own or that of a builder inside. -/
def Step.fault? (stage : Stage) : Step → Option Error
  | .selectSub sub _ => sub.fault? stage.dialect
  | .whereSubQuery _ _ sub => sub.fault? stage.dialect
  | .union _ sub => sub.fault? stage.dialect
  | .whereDate (.timeZone _ _ _ _) =>
    if stage.dialect = .sqlite then some (.unsupported "sqlite" "time zone conversion") else none
  | .orderBy _ direction =>
    if IsDirection direction then none else some (.validation (.orderDirection direction))
  | .lockModifier modifier =>
    if stage.locked then none else some (.validation (.lockModifier modifier))
  | _ => none

def SubQuery.fault? (outer : Dialect) : SubQuery → Option Error
  | .mk dialect? _ steps => firstFault? ⟨dialect?.getD outer, false⟩ steps

/-- The first error of a program, in the order of its calls. -/
def firstFault? (stage : Stage) : List Step → Option Error
  | [] => none
  | step :: rest => (step.fault? stage).or (firstFault? (step.stageAfter stage) rest)

end

theorem firstFault?_append_of_some {stage : Stage} {steps : List Step} {error : Error}
    (first : firstFault? stage steps = some error) (later : List Step) :
    firstFault? stage (steps ++ later) = some error := by
  induction steps generalizing stage with
  | nil => simp [firstFault?] at first
  | cons step rest ih =>
    rw [List.cons_append, firstFault?]
    rw [firstFault?] at first
    cases own : step.fault? stage with
    | some found =>
      rw [own] at first
      exact first
    | none =>
      rw [own, Option.none_or] at first
      rw [Option.none_or]
      exact ih first

/-! What a later call may be refused for changes with the calls alone. -/

theorem lock?_fail (query : Query) (error : Error) : (query.fail error).lock? = query.lock? := by
  rw [fail_eq]

theorem lock?_absorb (query other : Query) : (query.absorb other).lock? = query.lock? := by
  rw [absorb_eq]

theorem isSome_lock?_apply (query : Query) (step : Step) :
    (query.apply step).lock?.isSome = (step.stageAfter query.stage).locked := by
  cases step with
  | selectSub sub label => exact congrArg Option.isSome (lock?_absorb query _)
  | whereSubQuery column op sub => exact congrArg Option.isSome (lock?_absorb query _)
  | union all sub => exact congrArg Option.isSome (lock?_absorb query _)
  | whereIn column values =>
    simp only [Query.apply, Query.whereIn]
    split <;> rfl
  | whereNotIn column values =>
    simp only [Query.apply, Query.whereNotIn]
    split <;> rfl
  | whereDate condition =>
    simp only [Query.apply, Query.whereDate]
    split
    · rfl
    · exact congrArg Option.isSome (lock?_fail query _)
  | orderBy column direction =>
    simp only [Query.apply, Query.addOrder]
    split
    · rfl
    · exact congrArg Option.isSome (lock?_fail query _)
  | lockModifier modifier =>
    simp only [Query.apply, Query.lockModifier, Step.stageAfter, stage]
    split
    · rename_i held
      simp [held]
    · exact congrArg Option.isSome (lock?_fail query _)
  | _ => rfl

theorem stage_apply (query : Query) (step : Step) :
    (query.apply step).stage = step.stageAfter query.stage := by
  have dialect := dialect_apply query step
  have locked := isSome_lock?_apply query step
  exact congr (congrArg Stage.mk dialect) locked

/-! Each call that may be refused keeps the first error. -/

theorem fault?_addOrder (query : Query) (column direction : String) :
    (query.addOrder column direction).fault? =
      query.fault?.or ((Step.orderBy column direction).fault? query.stage) := by
  simp only [Query.addOrder, Step.fault?, IsDirection, List.mem_cons, List.not_mem_nil, or_false]
  split
  · exact Option.or_none.symm
  · exact fault?_fail query _

theorem fault?_lockModifier (query : Query) (modifier : String) :
    (query.lockModifier modifier).fault? =
      query.fault?.or ((Step.lockModifier modifier).fault? query.stage) := by
  unfold Query.lockModifier
  split
  · rename_i lock held
    simp [Step.fault?, stage, held]
  · rename_i free
    simp [Step.fault?, stage, free, fault?_fail]

private theorem timeZone_refused {dialect : Dialect} {column op zone : String} {value : DateTime}
    {error : Error}
    (refused : (DateCondition.timeZone column op value zone).render dialect = .error error) :
    dialect = .sqlite ∧ error = .unsupported "sqlite" "time zone conversion" := by
  cases dialect with
  | sqlite => exact ⟨rfl, (Except.error.inj refused).symm⟩
  | mySql => cases refused
  | postgres => cases refused

/-- Only a conversion between time zones is refused, and only by a backend that knows none. -/
theorem fault?_whereDate (query : Query) (condition : DateCondition) :
    (query.whereDate condition).fault? =
      query.fault?.or ((Step.whereDate condition).fault? query.stage) := by
  cases condition with
  | timeZone column op value zone =>
    unfold Query.whereDate
    split
    · rename_i fragment rendered
      have known : query.dialect ≠ .sqlite := by
        intro sqlite
        rw [sqlite] at rendered
        cases rendered
      simp [Step.fault?, stage, known, Query.andWhere]
    · rename_i error refused
      obtain ⟨sqlite, rfl⟩ := timeZone_refused refused
      simp [Step.fault?, stage, sqlite, fault?_fail]
  | dateRange column first last inclusive =>
    cases inclusive <;> exact Option.or_none.symm
  | _ => exact Option.or_none.symm

mutual

/-- A call adds its error behind those that there are already. -/
theorem fault?_apply (query : Query) (step : Step) :
    (query.apply step).fault? = query.fault?.or (step.fault? query.stage) := by
  match step with
  | .selectSub sub label =>
    rw [Step.fault?, ← fault?_ofSubQuery query.stage.dialect sub]
    exact fault?_absorb query _
  | .whereSubQuery column op sub =>
    rw [Step.fault?, ← fault?_ofSubQuery query.stage.dialect sub]
    exact fault?_absorb query _
  | .union all sub =>
    rw [Step.fault?, ← fault?_ofSubQuery query.stage.dialect sub]
    exact fault?_absorb query _
  | .whereDate condition => exact fault?_whereDate query condition
  | .orderBy column direction => exact fault?_addOrder query column direction
  | .lockModifier modifier => exact fault?_lockModifier query modifier
  | .whereIn column values =>
    simp only [Query.apply, Query.whereIn]
    split <;> exact Option.or_none.symm
  | .whereNotIn column values =>
    simp only [Query.apply, Query.whereNotIn]
    split <;> exact Option.or_none.symm
  | .tableAlias _ | .remember _ | .select _ | .selectRaw _ _ | .window _ _ _ _ | .andWhere _ _
  | .orWhere _ _ | .whereId _ | .whereGroup _ _ | .whereNull _ | .whereNotNull _
  | .whereBetween _ _ _ | .whereNotBetween _ _ _ | .join _ _ _ | .groupBy _ | .having _
  | .havingRaw _ _ | .limit _ | .offset _ | .lock _ | .subQuery _ | .withTransaction _ =>
    exact Option.or_none.symm

theorem fault?_ofSubQuery (outer : Dialect) (sub : SubQuery) :
    (ofSubQuery outer sub).fault? = sub.fault? outer := by
  match sub with
  | .mk dialect? table steps => exact fault?_applyAll (new ⟨.pool, dialect?.getD outer⟩ table) steps

theorem fault?_applyAll (query : Query) (steps : List Step) :
    (query.applyAll steps).fault? = query.fault?.or (firstFault? query.stage steps) := by
  match steps with
  | [] => exact Option.or_none.symm
  | step :: rest =>
    rw [applyAll, firstFault?, fault?_applyAll (query.apply step) rest, fault?_apply query step,
      stage_apply, Option.or_assoc]

end

/-- The error of a builder is the first one of the program that has built it. -/
theorem fault?_program (connection : Connection) (table : String) (steps : List Step) :
    ((new connection table).applyAll steps).fault? =
      firstFault? ⟨connection.dialect, false⟩ steps :=
  fault?_applyAll (new connection table) steps

end FluentSql.Query
