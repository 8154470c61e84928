import FluentSql.Proofs.Placeholder.Builders
import FluentSql.Proofs.Placeholder.Dates
import FluentSql.Query.Step

/-! Programs of builder calls with their arguments written into the texts that they come with. Such
a program builds the builder that has the arguments written in: no call loses an argument or takes
it to the placeholder of another. -/
namespace FluentSql

open Placeholder

namespace Conditions

mutual

/-- Every clause comes with its own arguments, and no argument without a clause. -/
def Step.Supplied : Step → Prop
  | .and text args => Placeholder.Paired text args
  | .or text args => Placeholder.Paired text args
  | .group _ steps => AllSupplied steps
  | .args args => Placeholder.Paired "" args

def AllSupplied : List Step → Prop
  | [] => True
  | step :: rest => step.Supplied ∧ AllSupplied rest

end

mutual

/-- The call with its arguments written into its clause. -/
def Step.inlined (write : Value → String) : Step → Step
  | .and text args => .and (filled write text args) []
  | .or text args => .or (filled write text args) []
  | .group connector steps => .group connector (inlinedSteps write steps)
  | .args _ => .args []

def inlinedSteps (write : Value → String) : List Step → List Step
  | [] => []
  | step :: rest => step.inlined write :: inlinedSteps write rest

end

mutual

theorem Paired.apply {conditions : Conditions} (paired : conditions.Paired) (step : Step)
    (supplied : step.Supplied) : (conditions.apply step).Paired := by
  match step with
  | .and _ _ => exact paired.append (paired_clause .and supplied)
  | .or _ _ => exact paired.append (paired_clause .or supplied)
  | .group connector steps =>
    exact paired.attach connector (Paired.applyAll paired_empty steps supplied)
  | .args args =>
    have none : args = [] := supplied.args_eq_nil
    subst args
    exact paired

theorem Paired.applyAll {conditions : Conditions} (paired : conditions.Paired) (steps : List Step)
    (supplied : AllSupplied steps) : (conditions.applyAll steps).Paired := by
  match steps with
  | [] => exact paired
  | step :: rest => exact (paired.apply step supplied.1).applyAll rest supplied.2

end

mutual

theorem inlined_apply (write : Value → String) (conditions : Conditions) (step : Step)
    (supplied : step.Supplied) :
    (conditions.apply step).inlined write =
      (conditions.inlined write).apply (step.inlined write) := by
  match step with
  | .and _ _ => exact inlined_append write conditions _
  | .or _ _ => exact inlined_append write conditions _
  | .group connector steps =>
    have inner := inlined_applyAll write [] steps supplied
    rw [Conditions.apply, inlined_attach, inner]
    rfl
  | .args args =>
    have none : args = [] := supplied.args_eq_nil
    subst args
    rfl

theorem inlined_applyAll (write : Value → String) (conditions : Conditions) (steps : List Step)
    (supplied : AllSupplied steps) :
    (conditions.applyAll steps).inlined write =
      (conditions.inlined write).applyAll (inlinedSteps write steps) := by
  match steps with
  | [] => rfl
  | step :: rest =>
    rw [Conditions.applyAll, inlined_applyAll write _ rest supplied.2,
      inlined_apply write conditions step supplied.1]
    rfl

end

end Conditions

namespace Query

mutual

/-- Every text of a call has the placeholders of the arguments that are given with it, and none
where no arguments are given. -/
def Step.Supplied : Step → Prop
  | .tableAlias name => Inert name
  | .remember _ => True
  | .select columns => ∀ column ∈ columns, Inert column
  | .selectRaw expr args => Placeholder.Paired expr args
  | .selectSub sub label => sub.Supplied ∧ Inert label
  | .window function partition order label =>
    Inert function ∧ Inert partition ∧ Inert order ∧ Inert label
  | .andWhere clause args => Placeholder.Paired clause args
  | .orWhere clause args => Placeholder.Paired clause args
  | .whereId _ => True
  | .whereGroup _ steps => Conditions.AllSupplied steps
  | .whereIn column _ => Inert column
  | .whereNotIn column _ => Inert column
  | .whereNull column => Inert column
  | .whereNotNull column => Inert column
  | .whereBetween column _ _ => Inert column
  | .whereNotBetween column _ _ => Inert column
  | .whereSubQuery column op sub => Inert column ∧ Inert op ∧ sub.Supplied
  | .whereDate condition => ∀ text ∈ condition.texts, Inert text
  | .join _ table condition? => Inert table ∧ ∀ condition ∈ condition?, Inert condition
  | .groupBy columns => ∀ column ∈ columns, Inert column
  | .having condition => Inert condition
  | .havingRaw sql args => Placeholder.Paired sql args
  | .orderBy column _ => Inert column
  | .limit _ => True
  | .offset _ => True
  | .lock lock => Inert lock
  | .lockModifier modifier => Inert modifier
  | .subQuery label => Inert label
  | .union _ sub => sub.Supplied
  | .withTransaction _ => True

def SubQuery.Supplied : SubQuery → Prop
  | .mk _ table steps => Inert table ∧ AllSupplied steps

def AllSupplied : List Step → Prop
  | [] => True
  | step :: rest => step.Supplied ∧ AllSupplied rest

end

/-- The dialect of a builder after a call: a transaction brings its own. -/
def Step.dialectAfter (dialect : Dialect) : Step → Dialect
  | .withTransaction connection => connection.dialect
  | _ => dialect

mutual

/-- The call with every argument written into the text that it is given with. What a helper binds
is written where the helper means it to stand. -/
def Step.inlined (write : Value → String) (dialect : Dialect) : Step → Step
  | .selectRaw expr args => .selectRaw (filled write expr args) []
  | .selectSub sub label => .selectSub (sub.inlined write dialect) label
  | .andWhere clause args => .andWhere (filled write clause args) []
  | .orWhere clause args => .orWhere (filled write clause args) []
  | .whereId id => .andWhere ("id = " ++ write id) []
  | .whereGroup connector steps => .whereGroup connector (Conditions.inlinedSteps write steps)
  | .whereIn column values =>
    if values.isEmpty then .andWhere "1 = 0" []
    else .andWhere (column ++ " IN (" ++ Text.commaList (values.map write) ++ ")") []
  | .whereNotIn column values =>
    if values.isEmpty then .andWhere "1 = 1" []
    else .andWhere (column ++ " NOT IN (" ++ Text.commaList (values.map write) ++ ")") []
  | .whereBetween column first last =>
    .andWhere (column ++ " BETWEEN " ++ write first ++ " AND " ++ write last) []
  | .whereNotBetween column first last =>
    .andWhere (column ++ " NOT BETWEEN " ++ write first ++ " AND " ++ write last) []
  | .whereSubQuery column op sub => .whereSubQuery column op (sub.inlined write dialect)
  | .whereDate condition =>
    match condition.inlined write dialect with
    | .ok text => .andWhere text []
    | .error _ => .whereDate condition
  | .havingRaw sql args => .havingRaw (filled write sql args) []
  | .union all sub => .union all (sub.inlined write dialect)
  | step => step

def SubQuery.inlined (write : Value → String) (outer : Dialect) : SubQuery → SubQuery
  | .mk dialect? table steps => .mk dialect? table (inlinedSteps write (dialect?.getD outer) steps)

def inlinedSteps (write : Value → String) (dialect : Dialect) : List Step → List Step
  | [] => []
  | step :: rest =>
    step.inlined write dialect :: inlinedSteps write (step.dialectAfter dialect) rest

end

end Query
end FluentSql
