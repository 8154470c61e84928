import FluentSql.Proofs.Compound.Items
import FluentSql.Proofs.Predicate.Leaves
import FluentSql.Query.Render

/-! Builders whose texts are plain. The select in front of their clauses is a plain text, what they
render has balanced parentheses, and their clauses can be told from each other. -/
namespace FluentSql

open Compound

namespace Compound

/-- A text without blanks and parentheses. -/
theorem run_letters (before letters : List Char)
    (plain : ∀ char ∈ letters, char ≠ ' ' ∧ char ≠ '(' ∧ char ≠ ')') :
    run (.word before) letters = some (.word (before ++ letters)) := by
  induction letters generalizing before with
  | nil => simp [run]
  | cons char letters ih =>
    obtain ⟨unblank, unopened, unclosed⟩ := plain char List.mem_cons_self
    have rest := ih (before ++ [char]) fun other member =>
      plain other (List.mem_cons_of_mem char member)
    simpa [run, next, unblank, unopened, unclosed] using rest

theorem plain_natText (value : Nat) : Plain (Text.natText value) := by
  rintro place rfl
  have digits : (Text.natText value).toList = Text.decimalDigits value := String.toList_ofList
  obtain ⟨first, rest, shown⟩ := List.exists_cons_of_ne_nil (Text.decimalDigits_ne_nil value)
  have member : first ∈ Text.decimalDigits value := by
    rw [shown]
    exact List.mem_cons_self
  have digit : Text.isDigit first = true := Text.isDigit_of_mem_decimalDigits member
  have reading := run_letters [] (Text.decimalDigits value) (by
    intro char member
    have digit := Text.isDigit_of_mem_decimalDigits member
    exact ⟨Text.ne_of_isDigit digit ' ' (by decide), Text.ne_of_isDigit digit '(' (by decide),
      Text.ne_of_isDigit digit ')' (by decide)⟩)
  refine ⟨_, ⟨_, ?_, rfl⟩, by rw [digits, reading]⟩
  exact isKeyword_eq_false_of_mem (List.mem_append_right [] member)
    (not_mem_text (Text.isUpper_eq_false_of_isDigit digit))

/-- A term of an ordering, which ends with its direction. -/
structure Directed (order : String) : Prop where
  plain : Plain order
  ending : ∃ column, order.toList = column ++ ['S', 'C']

/-- What locks rows has no direction in it. -/
structure Locks (lock : String) : Prop where
  plain : Plain lock
  undirected : ¬ ['S', 'C'] <:+: lock.toList

end Compound

namespace Predicate

theorem plain_joined {written fragment : String} (before : Plain written) (connector : Connector)
    (behind : Plain fragment) : Plain (joined written connector fragment) := by
  have word : Plain connector.text := by cases connector <;> exact leads (by decide)
  unfold joined
  split
  · exact before
  · split
    · exact behind
    · exact (before.append (by decide) word).append (by decide) behind

mutual

theorem plain_text (condition : Predicate) (plain : ∀ leaf ∈ condition.leaves, Plain leaf.sql) :
    Plain condition.text := by
  match condition with
  | .clause _ text args => exact plain ⟨text, args⟩ List.mem_cons_self
  | .group _ members =>
    have inner := plain_textFrom plain_empty members plain
    simp only [Predicate.text]
    split
    · exact plain_empty
    · exact inner.nested.wrap 0 (by decide) (by decide)

theorem plain_textFrom {written : String} (before : Plain written) (conditions : List Predicate)
    (plain : ∀ leaf ∈ leavesOf conditions, Plain leaf.sql) :
    Plain (textFrom written conditions) := by
  match conditions with
  | [] => exact before
  | condition :: rest =>
    have own := plain_text condition fun leaf member => plain leaf (List.mem_append_left _ member)
    exact plain_textFrom (plain_joined before _ own) rest fun leaf member =>
      plain leaf (List.mem_append_right _ member)

end

end Predicate

namespace Query

/-- The texts of a builder are plain. Its operands are rendered builders, so their texts only close
their parentheses. -/
structure PlainTexts (query : Query) : Prop where
  table : Plain query.table
  named : ∀ name ∈ query.alias?, Plain name
  columns : ∀ column ∈ query.columns, Plain column
  joins : ∀ join ∈ query.joins, Plain join.sql
  conditions : ∀ leaf ∈ query.conditions.leaves, Plain leaf.sql
  groupBy : ∀ column ∈ query.groupBy, Plain column
  having : ∀ condition ∈ query.having, Plain condition
  orderBy : ∀ order ∈ query.orderBy, Directed order
  lock : ∀ lock ∈ query.lock?, Locks lock
  operands : ∀ operand ∈ query.operands, Nested operand.sql

namespace PlainTexts

variable {query : Query} (plain : query.PlainTexts)
include plain

theorem plain_columnList : Plain query.columnList := by
  unfold columnList
  split
  · exact leads (by decide)
  · exact plain_join (by decide) plain.columns

theorem trails_fromClause : Trails query.fromClause := by
  have joined : Trails ((query.joins.map fun join => " " ++ join.sql).foldl (· ++ ·) "") := by
    apply leads_foldl
    intro text member
    obtain ⟨join, present, rfl⟩ := List.mem_map.mp member
    exact (plain.joins join present).trails (by decide)
  refine Trails.append ?_ joined
  split
  · exact trails_empty
  · have target : Trails (" FROM " ++ query.table) := plain.table.trails (by decide)
    split
    · rename_i name named
      exact target.append ((plain.named name (by simp [named])).trails (by decide))
    · exact target.append trails_empty

theorem trails_whereClause : Trails query.whereClause := by
  have text : Plain query.conditions.text :=
    Predicate.plain_textFrom plain_empty query.conditions plain.conditions
  simp only [whereClause]
  split
  · exact trails_empty
  · exact text.trails (by decide)

theorem trails_groupClause : Trails query.groupClause := by
  unfold groupClause
  refine Trails.append ?_ ?_
  · split
    · exact trails_empty
    · exact (plain_join (by decide) plain.groupBy).trails (by decide)
  · split
    · exact trails_empty
    · exact (plain_join (by decide) plain.having).trails (by decide)

theorem plain_core : Plain query.core.sql := by
  have columns : Plain ("SELECT " ++ query.columnList) :=
    Leads.append (leads (by decide)) plain.plain_columnList
  exact ((columns.trailed plain.trails_fromClause).trailed plain.trails_whereClause).trailed
    plain.trails_groupClause

theorem trails_lockClause : Trails query.lockClause := by
  unfold lockClause
  split
  · rename_i lock held
    split
    · exact (plain.lock lock (by simp [held])).plain.trails (by decide)
    · exact trails_empty
  · exact trails_empty

theorem nested_orderClause : Nested query.orderClause := by
  have number (value : Nat) : Nested (Text.natText value) := (plain_natText value).nested
  have listed : Plain (Text.commaList query.orderBy) :=
    plain_join (by decide) fun order member => (plain.orderBy order member).plain
  unfold orderClause
  refine Nested.append (Nested.append ?_ ?_) ?_
  · split
    · exact plain_empty.nested
    · exact Nested.append (nested (by decide)) listed.nested
  · split
    · exact Nested.append (nested (by decide)) (number _)
    · exact plain_empty.nested
  · split
    · exact Nested.append (nested (by decide)) (number _)
    · exact plain_empty.nested

/-- What a builder renders may stand in parentheses. -/
theorem nested_render : Nested query.render.sql := by
  have wrapping {text : String} (own : Nested text) : Nested (wrapped query.dialect text) := by
    unfold wrapped
    split
    · have enclosed : Plain ("(" ++ text ++ ")") := own.wrap 0 (by decide) (by decide)
      exact enclosed.nested
    · exact own
  have operands : Nested ((query.operands.map (operandText query.dialect)).foldl (· ++ ·) "") := by
    intro depth
    apply leads_foldl
    intro text member
    obtain ⟨operand, present, rfl⟩ := List.mem_map.mp member
    refine Nested.append ?_ (wrapping (plain.operands operand present)) depth
    split <;> exact nested (by decide)
  unfold render
  dsimp only
  split
  · exact (plain.plain_core.nested.append plain.nested_orderClause).append
      plain.trails_lockClause.nested
  · exact ((wrapping plain.plain_core.nested).append operands).append plain.nested_orderClause

end PlainTexts

end Query
end FluentSql
