import FluentSql.Predicate.Basic
import FluentSql.Query.Dates
import FluentSql.Query.Render

/-! Builders written down call by call, with their subqueries. -/
namespace FluentSql.Query

mutual

/-- One call on a builder. -/
inductive Step where
  | tableAlias (name : String)
  | remember (ttl : Duration)
  | select (columns : List String)
  | selectRaw (expr : String) (args : List Value)
  | selectSub (sub : SubQuery) (label : String)
  | window (function partition order label : String)
  | andWhere (clause : String) (args : List Value)
  | orWhere (clause : String) (args : List Value)
  | whereId (id : Value)
  | whereGroup (connector : Connector) (steps : List Conditions.Step)
  | whereIn (column : String) (values : List Value)
  | whereNotIn (column : String) (values : List Value)
  | whereNull (column : String)
  | whereNotNull (column : String)
  | whereBetween (column : String) (first last : Value)
  | whereNotBetween (column : String) (first last : Value)
  | whereSubQuery (column op : String) (sub : SubQuery)
  | whereDate (condition : DateCondition)
  | join (kind : JoinKind) (table : String) (condition? : Option String)
  | groupBy (columns : List String)
  | having (condition : String)
  | havingRaw (sql : String) (args : List Value)
  | orderBy (column direction : String)
  | limit (limit : UInt64)
  | offset (offset : UInt64)
  | lock (lock : String)
  | lockModifier (modifier : String)
  | subQuery (label : String)
  | union (all : Bool) (sub : SubQuery)
  | withTransaction (connection : Connection)

/-- A builder of its own, in the outer dialect where it names none. -/
inductive SubQuery where
  | mk (dialect? : Option Dialect) (table : String) (steps : List Step)

end

mutual

def apply (query : Query) : Step → Query
  | .tableAlias name => query.setAlias name
  | .remember ttl => query.remember ttl
  | .select columns => query.select columns
  | .selectRaw expr args => query.selectRaw expr args
  | .selectSub sub label => query.selectSub (ofSubQuery query.dialect sub) label
  | .window function partition order label => query.window function partition order label
  | .andWhere clause args => query.andWhere clause args
  | .orWhere clause args => query.orWhere clause args
  | .whereId id => query.whereId id
  | .whereGroup connector steps => query.whereGroup connector (Conditions.ofSteps steps)
  | .whereIn column values => query.whereIn column values
  | .whereNotIn column values => query.whereNotIn column values
  | .whereNull column => query.whereNull column
  | .whereNotNull column => query.whereNotNull column
  | .whereBetween column first last => query.whereBetween column first last
  | .whereNotBetween column first last => query.whereNotBetween column first last
  | .whereSubQuery column op sub => query.whereSubQuery column op (ofSubQuery query.dialect sub)
  | .whereDate condition => query.whereDate condition
  | .join kind table condition? => query.addJoin kind table condition?
  | .groupBy columns => query.setGroupBy columns
  | .having condition => query.setHaving condition
  | .havingRaw sql args => query.havingRaw sql args
  | .orderBy column direction => query.addOrder column direction
  | .limit limit => query.setLimit limit
  | .offset offset => query.setOffset offset
  | .lock lock => query.lockRows lock
  | .lockModifier modifier => query.lockModifier modifier
  | .subQuery label => query.subQuery label
  | .union all sub => query.addOperand all (ofSubQuery query.dialect sub)
  | .withTransaction connection => query.withTransaction connection

/-- The builder of a subquery, on the pool. -/
def ofSubQuery (outer : Dialect) : SubQuery → Query
  | .mk dialect? table steps => applyAll (new ⟨.pool, dialect?.getD outer⟩ table) steps

def applyAll (query : Query) : List Step → Query
  | [] => query
  | step :: rest => applyAll (apply query step) rest

end

end FluentSql.Query
