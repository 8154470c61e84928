import FluentSql.Proofs.Placeholder.Steps

/-! Each call on a builder keeps its clauses paired with their arguments, and commutes with writing
the arguments in. -/
namespace FluentSql.Query

open Placeholder

variable {write : Value → String} {query other : Query} {clause expr result : String}
  {held : List Value}

theorem Paired.fail (paired : query.Paired) (error : Error) : (query.fail error).Paired := by
  rw [fail_eq]
  exact { paired with }

theorem Paired.absorb (paired : query.Paired) (other : Query) : (query.absorb other).Paired := by
  rw [absorb_eq]
  exact { paired with }

theorem inlined_fail (write : Value → String) (query : Query) (error : Error) :
    (query.fail error).inlined write = (query.inlined write).fail error := by
  rw [fail_eq, fail_eq]
  rfl

theorem inlined_absorb (write : Value → String) (query other : Query) :
    (query.absorb other).inlined write = (query.inlined write).absorb (other.inlined write) := by
  rw [absorb_eq, absorb_eq]
  rfl

theorem Paired.selectRaw (paired : query.Paired) (own : Placeholder.Paired expr held) :
    (query.selectRaw expr held).Paired :=
  { paired with columns := paired.columns.append own.spread }

theorem inlined_selectRaw (paired : query.Paired) (fills : Fills write expr held result) :
    (query.selectRaw expr held).inlined write = (query.inlined write).selectRaw result [] := by
  simp only [Query.selectRaw, inlined, filledEach_append write paired.columns,
    fills.paired.filledEach_eq write, fills.filled_eq, List.append_nil]

theorem Paired.andWhere (paired : query.Paired) (own : Placeholder.Paired clause held) :
    (query.andWhere clause held).Paired :=
  { paired with conditions := paired.conditions.append (Conditions.paired_clause .and own) }

theorem inlined_andWhere (query : Query) (fills : Fills write clause held result) :
    (query.andWhere clause held).inlined write = (query.inlined write).andWhere result [] := by
  rw [← fills.filled_eq]
  simp only [Query.andWhere, inlined, Conditions.and, Conditions.inlined_append]
  rfl

theorem Paired.orWhere (paired : query.Paired) (own : Placeholder.Paired clause held) :
    (query.orWhere clause held).Paired :=
  { paired with conditions := paired.conditions.append (Conditions.paired_clause .or own) }

theorem inlined_orWhere (query : Query) (fills : Fills write clause held result) :
    (query.orWhere clause held).inlined write = (query.inlined write).orWhere result [] := by
  rw [← fills.filled_eq]
  simp only [Query.orWhere, inlined, Conditions.or, Conditions.inlined_append]
  rfl

theorem Paired.havingRaw (paired : query.Paired) (own : Placeholder.Paired clause held) :
    (query.havingRaw clause held).Paired :=
  { paired with having := paired.having.append own.spread }

theorem inlined_havingRaw (paired : query.Paired) (fills : Fills write clause held result) :
    (query.havingRaw clause held).inlined write = (query.inlined write).havingRaw result [] := by
  simp only [Query.havingRaw, inlined, filledEach_append write paired.having,
    fills.paired.filledEach_eq write, fills.filled_eq, List.append_nil]

/-- A list of candidates takes one placeholder for each. -/
theorem fills_candidates (write : Value → String) (inert : Inert column) (opening : Inert keyword)
    (values : List Value) :
    Fills write (column ++ keyword ++ Text.placeholders values.length ++ ")") values
      (column ++ keyword ++ Text.commaList (values.map write) ++ ")") := by
  have listed := (fills_placeholders write values).after (inert.append opening)
  exact listed.before (by decide)

theorem inert_window {function partition order label : String} (call : Inert function)
    (parts : Inert partition) (sorting : Inert order) (name : Inert label) :
    Inert (function ++ " OVER (" ++ Text.join " "
      ((if partition = "" then [] else ["PARTITION BY " ++ partition]) ++
        (if order = "" then [] else ["ORDER BY " ++ order])) ++ ")" ++
      (if label = "" then "" else " AS " ++ label)) := by
  have clauses : ∀ text ∈ (if partition = "" then [] else ["PARTITION BY " ++ partition]) ++
      (if order = "" then [] else ["ORDER BY " ++ order]), Inert text := by
    intro text member
    rcases List.mem_append.mp member with first | second
    · split at first
      · cases first
      · rw [List.mem_singleton.mp first]
        exact Inert.append (by decide) parts
    · split at second
      · cases second
      · rw [List.mem_singleton.mp second]
        exact Inert.append (by decide) sorting
  refine Inert.append (((call.append (by decide)).append (inert_join inert_blank clauses)).append
    (by decide)) ?_
  split
  · decide
  · exact Inert.append (by decide) name

theorem mark_visible (value : Value) : (fun _ : Value => "?") value ≠ "" := by simp

theorem Paired.render (paired : query.Paired) :
    Placeholder.Paired query.render.sql query.render.args :=
  (paired.fills_render mark_visible).paired

theorem fills_selectSub (inner : other.Paired) (visible : ∀ value, write value ≠ "")
    (inert : Inert label) :
    Fills write ("(" ++ other.render.sql ++ ") AS " ++ label) other.render.args
      ("(" ++ (other.inlined write).render.sql ++ ") AS " ++ label) := by
  have closing : Inert ") AS " := by decide
  exact (((inner.fills_render visible).after inert_open).before closing).before inert

theorem Paired.selectSub (paired : query.Paired) (inner : other.Paired) (inert : Inert label) :
    (query.selectSub other label).Paired := by
  have column := fills_selectSub inner mark_visible inert
  exact (paired.absorb other).selectRaw column.paired

theorem inlined_selectSub (paired : query.Paired) (inner : other.Paired)
    (visible : ∀ value, write value ≠ "") (inert : Inert label) :
    (query.selectSub other label).inlined write =
      (query.inlined write).selectSub (other.inlined write) label := by
  have column := fills_selectSub inner visible inert
  rw [Query.selectSub, inlined_selectRaw (paired.absorb other) column, inlined_absorb,
    Query.selectSub, args_render_inlined]

theorem fills_whereSubQuery (inner : other.Paired) (visible : ∀ value, write value ≠ "")
    (inert : Inert column) (operator : Inert op) :
    Fills write (column ++ " " ++ op ++ " (" ++ other.render.sql ++ ")") other.render.args
      (column ++ " " ++ op ++ " (" ++ (other.inlined write).render.sql ++ ")") := by
  have opening : Inert (column ++ " " ++ op ++ " (") :=
    ((inert.append (by decide)).append operator).append (by decide)
  exact ((inner.fills_render visible).after opening).before inert_close

theorem inlined_whereSubQuery (query : Query) (inner : other.Paired)
    (visible : ∀ value, write value ≠ "") (inert : Inert column) (operator : Inert op) :
    (query.whereSubQuery column op other).inlined write =
      (query.inlined write).whereSubQuery column op (other.inlined write) := by
  have condition := fills_whereSubQuery inner visible inert operator
  rw [Query.whereSubQuery, inlined_andWhere _ condition, inlined_absorb, Query.whereSubQuery,
    args_render_inlined]

theorem Paired.whereSubQuery (paired : query.Paired) (inner : other.Paired) (inert : Inert column)
    (operator : Inert op) : (query.whereSubQuery column op other).Paired := by
  have condition := fills_whereSubQuery inner mark_visible inert operator
  exact (paired.absorb other).andWhere condition.paired

theorem Paired.subQuery (paired : query.Paired) (inert : Inert label) :
    (query.subQuery label).Paired := by
  have column := fills_selectSub paired mark_visible inert
  exact { paired_new query.connection inert_empty with columns := column.paired.spread }

theorem inlined_subQuery (paired : query.Paired) (visible : ∀ value, write value ≠ "")
    (inert : Inert label) :
    (query.subQuery label).inlined write = (query.inlined write).subQuery label := by
  have column := fills_selectSub paired visible inert
  simp only [Query.subQuery, inlined, new, column.paired.filledEach_eq write, column.filled_eq]
  have none := args_render_inlined write query
  simp only [inlined] at none
  rw [none]
  rfl

theorem Paired.addOperand (paired : query.Paired) (all : Bool) (inner : other.Paired) :
    (query.addOperand all other).Paired := by
  refine { paired.absorb other with operands := ?_ }
  intro operand member
  rcases List.mem_append.mp member with before | last
  · exact (paired.absorb other).operands operand before
  · rw [List.mem_singleton.mp last]
    exact inner.render

theorem inlined_addOperand (query : Query) (all : Bool) (inner : other.Paired)
    (visible : ∀ value, write value ≠ "") :
    (query.addOperand all other).inlined write =
      (query.inlined write).addOperand all (other.inlined write) := by
  have operand := (inner.fills_render visible).filled_eq
  have joined := inlined_absorb write query other
  simp only [Query.addOperand, args_render_inlined, ← joined]
  simp only [inlined, List.map_append, List.map_cons, List.map_nil, Operand.inlined, operand]

theorem Paired.select (paired : query.Paired) (columns : List String)
    (inert : ∀ column ∈ columns, Inert column) : (query.select columns).Paired :=
  { paired with columns := spread_of_inert inert }

theorem inlined_select (query : Query) (columns : List String)
    (inert : ∀ column ∈ columns, Inert column) :
    (query.select columns).inlined write = (query.inlined write).select columns := by
  simp only [Query.select, inlined, filledEach_of_inert write inert]

theorem Paired.setHaving (paired : query.Paired) (inert : Inert clause) :
    (query.setHaving clause).Paired :=
  { paired with having := inert.spread }

theorem inlined_setHaving (query : Query) (inert : Inert clause) :
    (query.setHaving clause).inlined write = (query.inlined write).setHaving clause := by
  simp only [Query.setHaving, inlined, inert.filledEach_eq write, inert.filled_eq]

theorem Paired.addJoin (paired : query.Paired) (kind : JoinKind) (inert : Inert target)
    (condition? : Option String) (condition : ∀ text ∈ condition?, Inert text) :
    (query.addJoin kind target condition?).Paired := by
  refine { paired with joins := ?_ }
  intro join member
  rcases List.mem_append.mp member with before | last
  · exact paired.joins join before
  · rw [List.mem_singleton.mp last]
    have opening : Inert (kind.text ++ " " ++ target) := by
      refine Inert.append (Inert.append ?_ (by decide)) inert
      cases kind <;> decide
    unfold Join.sql
    split
    · rename_i text present
      split
      · exact opening
      · exact (opening.append (by decide)).append (condition text present)
    · exact opening

theorem Paired.addOrder (paired : query.Paired) (inert : Inert column) (direction : String) :
    (query.addOrder column direction).Paired := by
  simp only [Query.addOrder]
  split
  · rename_i word
    refine { paired with orderBy := ?_ }
    intro order member
    rcases List.mem_append.mp member with before | last
    · exact paired.orderBy order before
    · rw [List.mem_singleton.mp last]
      refine Inert.append (inert.append (by decide)) ?_
      rcases word with ascending | descending
      · rw [ascending]
        decide
      · rw [descending]
        decide
  · exact paired.fail _

theorem inlined_addOrder (write : Value → String) (query : Query) (column direction : String) :
    (query.addOrder column direction).inlined write =
      (query.inlined write).addOrder column direction := by
  simp only [Query.addOrder]
  split
  · rfl
  · exact inlined_fail write query _

theorem Paired.lockModifier (paired : query.Paired) (inert : Inert modifier) :
    (query.lockModifier modifier).Paired := by
  unfold Query.lockModifier
  split
  · rename_i lock held
    have locked : Inert lock := paired.lock lock (by simp [held])
    have longer : Inert (lock ++ " " ++ modifier) := (locked.append (by decide)).append inert
    exact { paired with lock := by simpa using longer }
  · exact paired.fail _

theorem inlined_lockModifier (write : Value → String) (query : Query) (modifier : String) :
    (query.lockModifier modifier).inlined write = (query.inlined write).lockModifier modifier := by
  have same : (query.inlined write).lock? = query.lock? := rfl
  simp only [Query.lockModifier, same]
  split
  · rfl
  · exact inlined_fail write query _

theorem Paired.whereIn (paired : query.Paired) (inert : Inert column) (values : List Value) :
    (query.whereIn column values).Paired := by
  unfold Query.whereIn
  split
  · exact paired.andWhere (by decide)
  · exact paired.andWhere (fills_candidates (fun _ => "") inert (by decide) values).paired

theorem inlined_whereIn (write : Value → String) (query : Query) (inert : Inert column)
    (values : List Value) :
    (query.whereIn column values).inlined write =
      apply (query.inlined write) ((Step.whereIn column values).inlined write query.dialect) := by
  have opening : Inert " IN (" := by decide
  have never : Inert "1 = 0" := by decide
  simp only [Query.whereIn, Step.inlined]
  split
  · exact inlined_andWhere query (never.fills write)
  · exact inlined_andWhere query (fills_candidates write inert opening values)

theorem Paired.whereNotIn (paired : query.Paired) (inert : Inert column) (values : List Value) :
    (query.whereNotIn column values).Paired := by
  unfold Query.whereNotIn
  split
  · exact paired.andWhere (by decide)
  · exact paired.andWhere (fills_candidates (fun _ => "") inert (by decide) values).paired

theorem inlined_whereNotIn (write : Value → String) (query : Query) (inert : Inert column)
    (values : List Value) :
    (query.whereNotIn column values).inlined write =
      apply (query.inlined write)
        ((Step.whereNotIn column values).inlined write query.dialect) := by
  have opening : Inert " NOT IN (" := by decide
  have always : Inert "1 = 1" := by decide
  simp only [Query.whereNotIn, Step.inlined]
  split
  · exact inlined_andWhere query (always.fills write)
  · exact inlined_andWhere query (fills_candidates write inert opening values)

theorem fills_whereBetween (write : Value → String) (inert : Inert column) (first last : Value) :
    Fills write (column ++ " BETWEEN ? AND ?") [first, last]
      (column ++ " BETWEEN " ++ write first ++ " AND " ++ write last) :=
  DateCondition.fills_between inert first last

theorem fills_whereNotBetween (write : Value → String) (inert : Inert column)
    (first last : Value) :
    Fills write (column ++ " NOT BETWEEN ? AND ?") [first, last]
      (column ++ " NOT BETWEEN " ++ write first ++ " AND " ++ write last) := by
  have refused : Inert (column ++ " NOT") := inert.append (by decide)
  have ends : Fills write (column ++ " NOT" ++ " BETWEEN ? AND ?") [first, last] _ :=
    DateCondition.fills_between refused first last
  have marked : column ++ " NOT" ++ " BETWEEN ? AND ?" = column ++ " NOT BETWEEN ? AND ?" := by
    have keyword : " NOT" ++ " BETWEEN ? AND ?" = " NOT BETWEEN ? AND ?" := by decide
    rw [String.append_assoc, keyword]
  have opening : column ++ " NOT" ++ " BETWEEN " = column ++ " NOT BETWEEN " := by
    have keyword : " NOT" ++ " BETWEEN " = " NOT BETWEEN " := by decide
    rw [String.append_assoc, keyword]
  rwa [DateCondition.between, marked, opening] at ends

theorem Paired.whereDate (paired : query.Paired) (condition : DateCondition)
    (inert : ∀ text ∈ condition.texts, Inert text) : (query.whereDate condition).Paired := by
  unfold Query.whereDate
  split
  · rename_i fragment rendered
    obtain ⟨_, _, fills⟩ :=
      DateCondition.fills_render (fun _ => "") query.dialect condition inert rendered
    exact paired.andWhere fills.paired
  · exact paired.fail _

end FluentSql.Query
