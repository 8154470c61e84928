import FluentSql.Proofs.Compound.Builders
import FluentSql.Proofs.Compound.Dates
import FluentSql.Query.Step
import Mathlib.Data.List.Infix

/-! Calls with plain texts keep the texts of a builder plain. -/
namespace FluentSql

open Compound

namespace Conditions

mutual

/-- Every clause of a call is a plain text. -/
def Step.PlainTexts : Step → Prop
  | .and text _ => Plain text
  | .or text _ => Plain text
  | .group _ steps => AllPlain steps
  | .args _ => True

def AllPlain : List Step → Prop
  | [] => True
  | step :: rest => step.PlainTexts ∧ AllPlain rest

end

/-- Conditions whose clauses are plain texts. -/
def PlainLeaves (conditions : Conditions) : Prop := ∀ leaf ∈ conditions.leaves, Plain leaf.sql

theorem plainLeaves_empty : PlainLeaves [] := by simp [PlainLeaves, leaves, Predicate.leavesOf]

theorem PlainLeaves.clause {conditions : Conditions} (plain : conditions.PlainLeaves)
    (connector : Connector) {text : String} (own : Plain text) (args : List Value) :
    PlainLeaves (conditions ++ [.clause connector text args]) := by
  intro leaf member
  rw [leaves, Predicate.leavesOf_append] at member
  rcases List.mem_append.mp member with before | last
  · exact plain leaf before
  · rw [List.mem_singleton.mp last]
    exact own

theorem PlainLeaves.attach {conditions members : Conditions} (plain : conditions.PlainLeaves)
    (connector : Connector) (inner : members.PlainLeaves) :
    (conditions.attach connector members).PlainLeaves := by
  intro leaf member
  rw [leaves_attach] at member
  rcases List.mem_append.mp member with before | last
  · exact plain leaf before
  · exact inner leaf last

mutual

theorem PlainLeaves.apply {conditions : Conditions} (plain : conditions.PlainLeaves) (step : Step)
    (own : step.PlainTexts) : (conditions.apply step).PlainLeaves := by
  match step with
  | .and text args => exact plain.clause .and own args
  | .or text args => exact plain.clause .or own args
  | .group connector steps =>
    exact plain.attach connector (PlainLeaves.applyAll plainLeaves_empty steps own)
  | .args [] => exact plain
  | .args (arg :: rest) => exact plain.clause .and plain_empty (arg :: rest)

theorem PlainLeaves.applyAll {conditions : Conditions} (plain : conditions.PlainLeaves)
    (steps : List Step) (own : AllPlain steps) : (conditions.applyAll steps).PlainLeaves := by
  match steps with
  | [] => exact plain
  | step :: rest => exact (plain.apply step own.1).applyAll rest own.2

end

end Conditions

namespace Query

mutual

/-- Every text of a call is plain: its parentheses are balanced, and outside them it has none of
the words that begin a part of a compound query. Locks are those that builders know. -/
def Step.PlainTexts : Step → Prop
  | .tableAlias name => Plain name
  | .remember _ => True
  | .select columns => ∀ column ∈ columns, Plain column
  | .selectRaw expr _ => Plain expr
  | .selectSub sub label => sub.PlainTexts ∧ Plain label
  | .window function partition order label =>
    Plain function ∧ Plain partition ∧ Plain order ∧ Plain label
  | .andWhere clause _ => Plain clause
  | .orWhere clause _ => Plain clause
  | .whereId _ => True
  | .whereGroup _ steps => Conditions.AllPlain steps
  | .whereIn column _ => Plain column
  | .whereNotIn column _ => Plain column
  | .whereNull column => Plain column
  | .whereNotNull column => Plain column
  | .whereBetween column _ _ => Plain column
  | .whereNotBetween column _ _ => Plain column
  | .whereSubQuery column op sub => Plain column ∧ Plain op ∧ sub.PlainTexts
  | .whereDate condition => ∀ text ∈ condition.texts, Plain text
  | .join _ table condition? => Plain table ∧ ∀ condition ∈ condition?, Plain condition
  | .groupBy columns => ∀ column ∈ columns, Plain column
  | .having condition => Plain condition
  | .havingRaw sql _ => Plain sql
  | .orderBy column _ => Plain column
  | .limit _ => True
  | .offset _ => True
  | .lock lock => lock ∈ ["FOR UPDATE", "FOR SHARE"]
  | .lockModifier modifier => modifier ∈ ["SKIP LOCKED", "NOWAIT"]
  | .subQuery label => Plain label
  | .union _ sub => sub.PlainTexts
  | .withTransaction _ => True

def SubQuery.PlainTexts : SubQuery → Prop
  | .mk _ table steps => Plain table ∧ AllPlain steps

def AllPlain : List Step → Prop
  | [] => True
  | step :: rest => step.PlainTexts ∧ AllPlain rest

end

theorem plainTexts_new (connection : Connection) {target : String} (plain : Plain target) :
    (new connection target).PlainTexts where
  table := plain
  named := by simp [new]
  columns := by simp [new]
  joins := by simp [new]
  conditions := Conditions.plainLeaves_empty
  groupBy := by simp [new]
  having := by simp [new]
  orderBy := by simp [new]
  lock := by simp [new]
  operands := by simp [new]

theorem mem_append_singleton {α : Type} {property : α → Prop} {items : List α} {last : α}
    (each : ∀ item ∈ items, property item) (own : property last) :
    ∀ item ∈ items ++ [last], property item := by
  intro item member
  rcases List.mem_append.mp member with before | final
  · exact each item before
  · rw [List.mem_singleton.mp final]
    exact own

theorem plain_candidates {column keyword : String} (plain : Plain column)
    (opening : leads? .word keyword.toList (.inside 0) = true) (count : Nat) :
    Plain (column ++ keyword ++ Text.placeholders count ++ ")") := by
  have listed : Nested (Text.placeholders count) := by
    refine nested_join (nested (by decide)) ?_
    intro mark member
    rw [(List.mem_replicate.mp member).2]
    exact nested (by decide)
  exact ((Leads.append plain (leads opening)).append (listed 0)).append (leads (by decide))

theorem plain_window {function partition order label : String} (call : Plain function)
    (parts : Plain partition) (sorting : Plain order) (name : Plain label) :
    Plain (function ++ " OVER (" ++ Text.join " "
      ((if partition = "" then [] else ["PARTITION BY " ++ partition]) ++
        (if order = "" then [] else ["ORDER BY " ++ order])) ++ ")" ++
      (if label = "" then "" else " AS " ++ label)) := by
  have clauses : ∀ text ∈ (if partition = "" then [] else ["PARTITION BY " ++ partition]) ++
      (if order = "" then [] else ["ORDER BY " ++ order]), Nested text := by
    intro text member
    rcases List.mem_append.mp member with first | second
    · split at first
      · cases first
      · rw [List.mem_singleton.mp first]
        exact Nested.append (nested (by decide)) parts.nested
    · split at second
      · cases second
      · rw [List.mem_singleton.mp second]
        exact Nested.append (nested (by decide)) sorting.nested
  have blank : Nested " " := nested (by decide)
  have listed := nested_join blank clauses 0
  refine Plain.trailed
    (((Leads.append call (leads (by decide))).append listed).append (leads (by decide))) ?_
  split
  · exact trails_empty
  · exact name.trails (by decide)

theorem plain_selectSub {sub : Query} (inner : sub.PlainTexts) {label : String}
    (name : Plain label) : Plain ("(" ++ sub.render.sql ++ ") AS " ++ label) := by
  have opened : Leads .start ("(" ++ sub.render.sql ++ ") AS ") .start :=
    inner.nested_render.wrap 0 (by decide) (by decide)
  exact opened.append name

/-- A direction is one of two words, so an ordering ends with its last two letters. -/
theorem directed_of_word {column word : String} (plain : Plain column)
    (known : word = "ASC" ∨ word = "DESC") : Directed (column ++ " " ++ word) := by
  rcases known with rfl | rfl
  · refine ⟨plain.append (by decide) (leads (by decide)), ⟨(column ++ " A").toList, ?_⟩⟩
    simp
  · refine ⟨plain.append (by decide) (leads (by decide)), ⟨(column ++ " DE").toList, ?_⟩⟩
    simp

theorem plain_join_sql {kind : JoinKind} {target : String} (plain : Plain target)
    {condition? : Option String} (condition : ∀ text ∈ condition?, Plain text) :
    Plain (Join.sql ⟨kind, target, condition?⟩) := by
  have opening : Plain (kind.text ++ " " ++ target) := by
    refine Plain.append ?_ (by decide) plain
    cases kind <;> exact leads (by decide)
  unfold Join.sql
  split
  · rename_i text present
    split
    · exact opening
    · exact opening.append (by decide) (condition text present)
  · exact opening

theorem undirected_append {before behind : List Char} (own : ¬ ['S', 'C'] <:+: before)
    (other : ¬ ['S', 'C'] <:+: behind) : ¬ ['S', 'C'] <:+: before ++ ' ' :: behind := by
  induction before with
  | nil =>
    rw [List.nil_append, List.infix_cons_iff]
    rintro (start | later)
    · simp [List.cons_prefix_cons] at start
    · exact other later
  | cons char before ih =>
    rw [List.cons_append, List.infix_cons_iff]
    rintro (start | later)
    · cases before with
      | nil => simp [List.cons_prefix_cons] at start
      | cons second before =>
        simp only [List.cons_append, List.cons_prefix_cons, List.nil_prefix, and_true] at start
        obtain ⟨rfl, rfl⟩ := start
        exact own ⟨[], before, rfl⟩
    · exact ih (fun found => own (List.infix_cons found)) later

theorem locks_append {lock modifier : String} (locks : Locks lock) (also : Locks modifier) :
    Locks (lock ++ " " ++ modifier) where
  plain := locks.plain.append (by decide) also.plain
  undirected := by
    have blank : " ".toList = [' '] := by decide
    rw [String.toList_append, String.toList_append, blank, List.append_assoc]
    exact undirected_append locks.undirected also.undirected

theorem locks_of_known {lock : String}
    (known : lock ∈ ["FOR UPDATE", "FOR SHARE", "SKIP LOCKED", "NOWAIT"]) : Locks lock := by
  simp only [List.mem_cons, List.not_mem_nil, or_false] at known
  rcases known with rfl | rfl | rfl | rfl <;> exact ⟨leads (by decide), by decide⟩

namespace PlainTexts

variable {query : Query} (plain : query.PlainTexts)
include plain

theorem fail (error : Error) : (query.fail error).PlainTexts := by
  rw [fail_eq]
  exact { plain with }

theorem absorb (other : Query) : (query.absorb other).PlainTexts := by
  rw [absorb_eq]
  exact { plain with }

theorem selectRaw {expr : String} (own : Plain expr) (args : List Value) :
    (query.selectRaw expr args).PlainTexts :=
  { plain with columns := mem_append_singleton plain.columns own }

theorem andWhere {clause : String} (own : Plain clause) (args : List Value) :
    (query.andWhere clause args).PlainTexts :=
  { plain with conditions := Conditions.PlainLeaves.clause plain.conditions .and own args }

theorem orWhere {clause : String} (own : Plain clause) (args : List Value) :
    (query.orWhere clause args).PlainTexts :=
  { plain with conditions := Conditions.PlainLeaves.clause plain.conditions .or own args }

theorem whereIn {column : String} (own : Plain column) (values : List Value) :
    (query.whereIn column values).PlainTexts := by
  unfold Query.whereIn
  split
  · exact plain.andWhere (leads (by decide)) []
  · exact plain.andWhere (plain_candidates own (by decide) values.length) values

theorem whereNotIn {column : String} (own : Plain column) (values : List Value) :
    (query.whereNotIn column values).PlainTexts := by
  unfold Query.whereNotIn
  split
  · exact plain.andWhere (leads (by decide)) []
  · exact plain.andWhere (plain_candidates own (by decide) values.length) values

theorem whereDate (condition : DateCondition) (own : ∀ text ∈ condition.texts, Plain text) :
    (query.whereDate condition).PlainTexts := by
  unfold Query.whereDate
  split
  · rename_i fragment rendered
    exact plain.andWhere (condition.plain_render query.dialect own rendered) fragment.args
  · exact plain.fail _

theorem selectSub {sub : Query} (inner : sub.PlainTexts) {label : String} (name : Plain label) :
    (query.selectSub sub label).PlainTexts :=
  (plain.absorb sub).selectRaw (plain_selectSub inner name) _

theorem whereSubQuery {sub : Query} (inner : sub.PlainTexts) {column op : String}
    (own : Plain column) (operator : Plain op) :
    (query.whereSubQuery column op sub).PlainTexts := by
  have compared : Plain (column ++ " " ++ op) := own.append (by decide) operator
  exact (plain.absorb sub).andWhere
    (((Leads.append compared (leads (by decide))).append (inner.nested_render 0)).append
      (leads (by decide))) _

theorem addOrder {column : String} (own : Plain column) (direction : String) :
    (query.addOrder column direction).PlainTexts := by
  simp only [Query.addOrder]
  split
  · rename_i known
    exact { plain with
      orderBy := mem_append_singleton plain.orderBy (directed_of_word own known) }
  · exact plain.fail _

theorem lockModifier {modifier : String} (own : Locks modifier) :
    (query.lockModifier modifier).PlainTexts := by
  unfold Query.lockModifier
  split
  · rename_i lock held
    have longer := locks_append (plain.lock lock (by simp [held])) own
    exact { plain with lock := by simpa using longer }
  · exact plain.fail _

theorem subQuery {label : String} (name : Plain label) : (query.subQuery label).PlainTexts :=
  { plainTexts_new query.connection plain_empty with
    columns := by simpa [Query.subQuery] using plain_selectSub plain name }

theorem addOperand (all : Bool) {other : Query} (inner : other.PlainTexts) :
    (query.addOperand all other).PlainTexts :=
  { plain.absorb other with
    operands := mem_append_singleton (plain.absorb other).operands inner.nested_render }

end PlainTexts

mutual

/-- Every call with plain texts keeps those of the builder plain. -/
theorem PlainTexts.apply {query : Query} (plain : query.PlainTexts) (step : Step)
    (own : step.PlainTexts) : (query.apply step).PlainTexts := by
  match step with
  | .tableAlias name =>
    have named : ∀ label ∈ some name, Plain label := by simpa [Step.PlainTexts] using own
    exact { plain with named }
  | .remember ttl => exact { plain with }
  | .select columns => exact { plain with columns := own }
  | .selectRaw expr args => exact plain.selectRaw own args
  | .selectSub sub label =>
    exact plain.selectSub (plainTexts_ofSubQuery query.dialect sub own.1) own.2
  | .window function partition order label =>
    obtain ⟨call, parts, sorting, name⟩ := own
    exact plain.selectRaw (plain_window call parts sorting name) []
  | .andWhere clause args => exact plain.andWhere own args
  | .orWhere clause args => exact plain.orWhere own args
  | .whereId id => exact plain.andWhere (leads (by decide)) [id]
  | .whereGroup connector steps =>
    have members := Conditions.PlainLeaves.applyAll Conditions.plainLeaves_empty steps own
    exact { plain with
      conditions := Conditions.PlainLeaves.attach plain.conditions connector members }
  | .whereIn column values => exact plain.whereIn own values
  | .whereNotIn column values => exact plain.whereNotIn own values
  | .whereNull column => exact plain.andWhere (Plain.trailed own (leads (by decide))) []
  | .whereNotNull column => exact plain.andWhere (Plain.trailed own (leads (by decide))) []
  | .whereBetween column first last =>
    exact plain.andWhere (Plain.trailed own (leads (by decide))) [first, last]
  | .whereNotBetween column first last =>
    exact plain.andWhere (Plain.trailed own (leads (by decide))) [first, last]
  | .whereSubQuery column op sub =>
    obtain ⟨field, operator, inner⟩ := own
    exact plain.whereSubQuery (plainTexts_ofSubQuery query.dialect sub inner) field operator
  | .whereDate condition => exact plain.whereDate condition own
  | .join kind table condition? =>
    exact { plain with
      joins := mem_append_singleton plain.joins (plain_join_sql own.1 own.2) }
  | .groupBy columns => exact { plain with groupBy := own }
  | .having condition =>
    have single : ∀ text ∈ [condition], Plain text := by simpa [Step.PlainTexts] using own
    exact { plain with having := single }
  | .havingRaw sql args => exact { plain with having := mem_append_singleton plain.having own }
  | .orderBy column direction => exact plain.addOrder own direction
  | .limit limit => exact { plain with }
  | .offset offset => exact { plain with }
  | .lock lock =>
    have known : Locks lock := locks_of_known (List.mem_append_left ["SKIP LOCKED", "NOWAIT"] own)
    have locked : ∀ text ∈ some lock, Locks text := by simpa using known
    exact { plain with lock := locked }
  | .lockModifier modifier =>
    exact plain.lockModifier
      (locks_of_known (List.mem_append_right ["FOR UPDATE", "FOR SHARE"] own))
  | .subQuery label => exact plain.subQuery own
  | .union all sub => exact plain.addOperand all (plainTexts_ofSubQuery query.dialect sub own)
  | .withTransaction connection => exact { plain with }

theorem plainTexts_ofSubQuery (outer : Dialect) (sub : SubQuery) (own : sub.PlainTexts) :
    (ofSubQuery outer sub).PlainTexts := by
  match sub with
  | .mk dialect? table steps => exact (plainTexts_new _ own.1).applyAll steps own.2

theorem PlainTexts.applyAll {query : Query} (plain : query.PlainTexts) (steps : List Step)
    (own : AllPlain steps) : (query.applyAll steps).PlainTexts := by
  match steps with
  | [] => exact plain
  | step :: rest => exact (plain.apply step own.1).applyAll rest own.2

end

end Query
end FluentSql
