import FluentSql.Dialect.Dates
import FluentSql.Predicate.Render

/-! The clauses of a condition tree from left to right. Its arguments are theirs, in their order. -/
namespace FluentSql

namespace Predicate

mutual

/-- The clauses of a condition with their own arguments, also those that show no text. -/
def leaves : Predicate → List Fragment
  | .clause _ text args => [⟨text, args⟩]
  | .group _ members => leavesOf members

def leavesOf : List Predicate → List Fragment
  | [] => []
  | condition :: rest => condition.leaves ++ leavesOf rest

end

theorem leavesOf_append (first rest : List Predicate) :
    leavesOf (first ++ rest) = leavesOf first ++ leavesOf rest := by
  induction first with
  | nil => rfl
  | cons condition first ih => simp only [List.cons_append, leavesOf, ih, List.append_assoc]

mutual

theorem args_eq_leaves (condition : Predicate) :
    condition.args = condition.leaves.flatMap Fragment.args := by
  match condition with
  | .clause _ _ _ => simp [Predicate.args, leaves]
  | .group _ members => simpa only [Predicate.args, leaves] using argsOf_eq_leaves members

theorem argsOf_eq_leaves (conditions : List Predicate) :
    argsOf conditions = (leavesOf conditions).flatMap Fragment.args := by
  match conditions with
  | [] => rfl
  | condition :: rest =>
    rw [argsOf, leavesOf, List.flatMap_append, args_eq_leaves condition, argsOf_eq_leaves rest]

end

end Predicate

namespace Conditions

/-- The clauses of a condition tree, from left to right. -/
def leaves (conditions : Conditions) : List Fragment := Predicate.leavesOf conditions

theorem args_eq_flatMap_leaves (conditions : Conditions) :
    conditions.args = conditions.leaves.flatMap Fragment.args :=
  Predicate.argsOf_eq_leaves conditions

theorem leaves_attach (conditions : Conditions) (connector : Connector) (members : Conditions) :
    (conditions.attach connector members).leaves = conditions.leaves ++ members.leaves := by
  cases members <;>
    simp [attach, leaves, Predicate.leavesOf_append, Predicate.leavesOf, Predicate.leaves]

end Conditions
end FluentSql
