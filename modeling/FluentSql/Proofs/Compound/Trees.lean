import FluentSql.Proofs.Compound.Clauses

/-! Builders with the builders of their operands. What such a tree renders is a row of items, and
where operands stand in parentheses the items tell the whole structure: which operands there are,
how they nest and are joined, and which clauses belong to which of them. -/
namespace FluentSql

open Compound

namespace Compound

/-- A builder, and the builders of its operands with the word that joins each. -/
inductive SelectTree where
  | node (query : Query) (operands : List (Bool × SelectTree))

def SelectTree.query : SelectTree → Query
  | .node query _ => query

def SelectTree.operands : SelectTree → List (Bool × SelectTree)
  | .node _ operands => operands

/-- What is kept of the builder of an operand. -/
def operandOf (joined : Bool × SelectTree) : Operand :=
  ⟨joined.1, joined.2.query.render.sql, joined.2.query.render.args⟩

mutual

/-- What holds of every builder of a tree with the trees of its operands. -/
def SelectTree.All (property : Query → List (Bool × SelectTree) → Prop) : SelectTree → Prop
  | .node query operands => property query operands ∧ AllOf property operands

def AllOf (property : Query → List (Bool × SelectTree) → Prop) : List (Bool × SelectTree) → Prop
  | [] => True
  | (_, tree) :: rest => tree.All property ∧ AllOf property rest

end

/-- A builder whose operands are what the builders below it render, and whose texts are plain. -/
structure Fits (query : Query) (operands : List (Bool × SelectTree)) : Prop where
  composed : query.operands = operands.map operandOf
  plain : query.PlainTexts

/-- A builder whose operands, if it has any, stand in parentheses. -/
def Wraps (query : Query) (operands : List (Bool × SelectTree)) : Prop :=
  operands = [] ∨ query.dialect.wrapsOperands = true

/-! The structure of a compound, and the items that it is written with. -/

/-- Selects with their own clauses, and compounds of a first select and further operands with the
clauses of the whole. -/
inductive Shape where
  | select (text : String) (clauses : Clauses)
  | compound (first : String) (operands : List (Bool × Shape)) (clauses : Clauses)

mutual

def SelectTree.shape : SelectTree → Shape
  | .node query operands =>
    if operands.isEmpty then
      .select (query.core.sql ++ query.orderClause ++ query.lockClause) query.clauses
    else .compound query.core.sql (shapes operands) query.clauses

def shapes : List (Bool × SelectTree) → List (Bool × Shape)
  | [] => []
  | (all, tree) :: rest => (all, tree.shape) :: shapes rest

end

/-- Items as an operand. -/
def enclosing (dialect : Dialect) (items : List Item) : List Item :=
  if dialect.wrapsOperands then [.enclosed items] else items

/-- A select with its clauses. A lock stands behind the last clause, or behind the select. -/
def selectItems (query : Query) : List Item :=
  .select (query.core.sql ++ ending query.clauses.isEmpty query.lockClause) ::
    query.clauses.items query.lockClause

mutual

def SelectTree.items : SelectTree → List Item
  | .node query operands =>
    if operands.isEmpty then selectItems query
    else
      enclosing query.dialect [.select query.core.sql] ++ operandItems query.dialect operands ++
        query.clauses.items ""

def operandItems (dialect : Dialect) : List (Bool × SelectTree) → List Item
  | [] => []
  | (all, tree) :: rest =>
    .joint all :: (enclosing dialect tree.items ++ operandItems dialect rest)

end

/-! The items of a tree are what its builder renders. -/

theorem written_enclosing (dialect : Dialect) {items : List Item} {text : String}
    (own : writtenAll items = text.toList) :
    writtenAll (enclosing dialect items) = (Query.wrapped dialect text).toList := by
  unfold enclosing Query.wrapped
  split
  · have opening : "(".toList = ['('] := by decide
    have closing : ")".toList = [')'] := by decide
    simp only [writtenAll, Item.written, own, String.toList_append, opening, closing,
      List.append_nil, List.cons_append, List.nil_append]
  · exact own

theorem written_joint (all : Bool) :
    (Item.joint all).written = (if all then " UNION ALL " else " UNION ").toList := by
  cases all <;> decide

theorem written_selectItems (query : Query) : writtenAll (selectItems query) =
    (query.core.sql ++ query.orderClause ++ query.lockClause).toList := by
  have clauses := query.clauses.written_items query.lockClause
  rw [selectItems, writtenAll, Item.written, clauses, Query.orderClause_eq]
  cases empty : query.clauses.isEmpty with
  | false => simp [ending]
  | true =>
    have silent : query.clauses.text = "" := by
      simp only [Clauses.isEmpty, Bool.and_eq_true, Option.isNone_iff_eq_none] at empty
      simp [Clauses.text, empty]
    simp [ending, silent]

mutual

theorem written_items (tree : SelectTree) (fits : tree.All Fits) :
    writtenAll tree.items = tree.query.render.sql.toList := by
  match tree with
  | .node query operands =>
    obtain ⟨own, inner⟩ := fits
    have empty : query.operands.isEmpty = operands.isEmpty := by
      rw [own.composed, List.isEmpty_map]
    rw [SelectTree.items, SelectTree.query, Query.render]
    simp only [empty]
    split
    · exact written_selectItems query
    · have first : writtenAll [.select query.core.sql] = query.core.sql.toList := by
        simp [writtenAll, Item.written]
      have clauses : writtenAll (query.clauses.items "") = query.orderClause.toList := by
        rw [Clauses.written_items, Query.orderClause_eq]
        cases query.clauses.isEmpty <;> simp [ending]
      rw [writtenAll_append, writtenAll_append, written_enclosing _ first,
        written_operandItems query.dialect operands inner, clauses, own.composed,
        ← String.toList_append, ← String.toList_append]
      rfl

theorem written_operandItems (dialect : Dialect) (operands : List (Bool × SelectTree))
    (fits : AllOf Fits operands) :
    writtenAll (operandItems dialect operands) =
      (String.join ((operands.map operandOf).map (Query.operandText dialect))).toList := by
  match operands with
  | [] => rfl
  | (all, tree) :: rest =>
    have own := written_enclosing dialect (written_items tree fits.1)
    rw [operandItems, writtenAll, writtenAll_append, own,
      written_operandItems dialect rest fits.2, written_joint]
    simp only [List.map_cons, String.join_cons, Query.operandText, operandOf,
      String.toList_append, List.append_assoc]

end

/-! The items of a tree with plain texts are well-formed. -/

theorem readable_trailed {query : Query} (plain : query.PlainTexts) {behind : String}
    (trails : Trails behind) : Readable (query.core.sql ++ behind) where
  plain := plain.plain_core.trailed trails
  opening := by
    have select : "SELECT ".toList = 'S' :: "ELECT ".toList := by decide
    simp only [Query.core, String.toList_append, select, List.cons_append]
    exact ⟨_, rfl⟩

theorem formed_selectItems {query : Query} (plain : query.PlainTexts) :
    Formed true (selectItems query) :=
  .select (readable_trailed plain (plain.trailing.ending _).trails)
    (query.clauses.formed_items plain.directed plain.trailing)

theorem formed_enclosing (dialect : Dialect) {items : List Item} (formed : Formed true items) :
    Formed true (enclosing dialect items) := by
  unfold enclosing
  split
  · exact .enclosed formed .done
  · exact formed

mutual

theorem formed_items (tree : SelectTree) (fits : tree.All Fits) : Formed true tree.items := by
  match tree with
  | .node query operands =>
    rw [SelectTree.items]
    split
    · exact formed_selectItems fits.1.plain
    · have first : Formed true [.select query.core.sql] := by
        have readable := readable_trailed fits.1.plain trails_empty
        rw [String.append_empty] at readable
        exact .select readable .done
      exact ((formed_enclosing query.dialect first).append
        (formed_operandItems query.dialect operands fits.2)).append
          (query.clauses.formed_items fits.1.plain.directed Clauses.trailing_empty)

theorem formed_operandItems (dialect : Dialect) (operands : List (Bool × SelectTree))
    (fits : AllOf Fits operands) : Formed false (operandItems dialect operands) := by
  match operands with
  | [] => exact .done
  | (all, tree) :: rest =>
    exact .joint ((formed_enclosing dialect (formed_items tree fits.1)).append
      (formed_operandItems dialect rest fits.2))

end

/-- Trees with plain texts that render the same are written with the same items. -/
theorem items_eq_of_render_eq {tree other : SelectTree} (fits : tree.All Fits)
    (fits' : other.All Fits) (same : tree.query.render.sql = other.query.render.sql) :
    tree.items = other.items := by
  have chars : writtenAll tree.items ++ [] = writtenAll other.items ++ [] := by
    rw [written_items tree fits, written_items other fits', same]
  exact (written_unique (formed_items tree fits) (formed_items other fits') .none .none chars).1

/-! Where operands stand in parentheses, the items tell the structure. -/

theorem shape_select_unique {query other : Query} (plain : query.PlainTexts)
    (plain' : other.PlainTexts) (same : selectItems query = selectItems other) :
    Shape.select (query.core.sql ++ query.orderClause ++ query.lockClause) query.clauses =
      .select (other.core.sql ++ other.orderClause ++ other.lockClause) other.clauses := by
  have texts := congrArg writtenAll same
  rw [written_selectItems, written_selectItems] at texts
  have clauses := Clauses.items_unique plain.directed plain'.directed plain.trailing
    plain'.trailing (List.cons.inj same).2
  rw [String.toList_injective texts, clauses]

/-- Clauses do not begin with a word that joins operands. -/
theorem joint_ne_items (all : Bool) (rest : List Item) (clauses : Clauses) (lock : String) :
    .joint all :: rest ≠ clauses.items lock := by
  obtain ⟨order?, limit?, offset?⟩ := clauses
  cases order? <;> cases limit? <;> cases offset? <;> exact nofun

mutual

theorem shape_unique (tree other : SelectTree) (fits : tree.All Fits) (fits' : other.All Fits)
    (wraps : tree.All Wraps) (wraps' : other.All Wraps) (same : tree.items = other.items) :
    tree.shape = other.shape := by
  match tree, other with
  | .node query [], .node query' [] => exact shape_select_unique fits.1.plain fits'.1.plain same
  | .node query [], .node query' (operand' :: rest') =>
    have wrapped := wraps'.1.resolve_left (List.cons_ne_nil _ _)
    simp [SelectTree.items, enclosing, wrapped, selectItems] at same
  | .node query (operand :: rest), .node query' [] =>
    have wrapped := wraps.1.resolve_left (List.cons_ne_nil _ _)
    simp [SelectTree.items, enclosing, wrapped, selectItems] at same
  | .node query (operand :: rest), .node query' (operand' :: rest') =>
    have wrapped := wraps.1.resolve_left (List.cons_ne_nil _ _)
    have wrapped' := wraps'.1.resolve_left (List.cons_ne_nil _ _)
    -- The first operand is one item in parentheses, so the others and the clauses line up.
    have rows : Item.enclosed [.select query.core.sql] ::
          (operandItems query.dialect (operand :: rest) ++ query.clauses.items "") =
        .enclosed [.select query'.core.sql] ::
          (operandItems query'.dialect (operand' :: rest') ++ query'.clauses.items "") := by
      simpa [SelectTree.items, enclosing, wrapped, wrapped'] using same
    obtain ⟨first, tails⟩ := List.cons.inj rows
    have core : query.core.sql = query'.core.sql := by simpa using first
    obtain ⟨operands, clauses⟩ := shapes_unique (operand :: rest) (operand' :: rest') fits.2
      fits'.2 wraps.2 wraps'.2 wrapped wrapped' tails
    have equal := Clauses.items_unique fits.1.plain.directed fits'.1.plain.directed
      Clauses.trailing_empty Clauses.trailing_empty clauses
    simp only [SelectTree.shape, List.isEmpty_cons, Bool.false_eq_true, ↓reduceIte, core, operands,
      equal]

theorem shapes_unique (operands others : List (Bool × SelectTree)) (fits : AllOf Fits operands)
    (fits' : AllOf Fits others) (wraps : AllOf Wraps operands) (wraps' : AllOf Wraps others)
    {dialect dialect' : Dialect} (wrapped : dialect.wrapsOperands = true)
    (wrapped' : dialect'.wrapsOperands = true) {clauses clauses' : Clauses}
    (same : operandItems dialect operands ++ clauses.items "" =
      operandItems dialect' others ++ clauses'.items "") :
    shapes operands = shapes others ∧ clauses.items "" = clauses'.items "" := by
  match operands, others with
  | [], [] => exact ⟨rfl, same⟩
  | [], (all, tree) :: rest => exact absurd same.symm (joint_ne_items _ _ _ _)
  | (all, tree) :: rest, [] => exact absurd same (joint_ne_items _ _ _ _)
  | (all, tree) :: rest, (all', tree') :: rest' =>
    simp only [operandItems, enclosing, wrapped, wrapped', ↓reduceIte, List.cons_append,
      List.nil_append, List.cons.injEq, Item.joint.injEq, Item.enclosed.injEq] at same
    obtain ⟨joint, items, tails⟩ := same
    have shape := shape_unique tree tree' fits.1 fits'.1 wraps.1 wraps'.1 items
    obtain ⟨later, behind⟩ := shapes_unique rest rest' fits.2 fits'.2 wraps.2 wraps'.2 wrapped
      wrapped' tails
    exact ⟨by rw [shapes, shapes, joint, shape, later], behind⟩

end

end Compound
end FluentSql
