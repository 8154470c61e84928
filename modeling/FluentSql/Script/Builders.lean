import FluentSql.Json.Reader
import FluentSql.Query.Step
import FluentSql.Script.Values

/-! Builder calls in scripts: a method and its arguments in a list. -/
namespace FluentSql.Script

def connector (json : Json) : Reading Connector := do
  match ← string json with
  | "AND" => pure .and
  | "OR" => pure .or
  | other => .error ("connector " ++ other)

/-- A call on a condition tree; `depth` limits how deep groups nest. -/
def treeStepAt (depth : Nat) (json : Json) : Reading Conditions.Step := do
  match depth with
  | 0 => .error "groups nest too deep"
  | depth + 1 =>
    match ← list json with
    | [.string "and", text, args] => pure (.and (← string text) (← values args))
    | [.string "or", text, args] => pure (.or (← string text) (← values args))
    | [.string "and_group", steps] => pure (.group .and (← listOf (treeStepAt depth) steps))
    | [.string "or_group", steps] => pure (.group .or (← listOf (treeStepAt depth) steps))
    | [.string "push_tree", joint, steps] =>
      pure (.group (← connector joint) (← listOf (treeStepAt depth) steps))
    | [.string "push_args", args] => pure (.args (← values args))
    | _ => .error ("tree step " ++ json.print)

def treeStep : Json → Reading Conditions.Step := treeStepAt Json.depthLimit

def datePart (json : Json) : Reading DatePart := do
  match ← string json with
  | "year" => pure .year
  | "month" => pure .month
  | "day" => pure .day
  | "hour" => pure .hour
  | "minute" => pure .minute
  | "second" => pure .second
  | other => .error ("date part " ++ other)

def dateField (json : Json) : Reading DateField := do
  match ← string json with
  | "year" => pure .year
  | "month" => pure .month
  | "day" => pure .day
  | "hour" => pure .hour
  | "minute" => pure .minute
  | "second" => pure .second
  | "weekday" => pure .weekday
  | "quarter" => pure .quarter
  | "week" => pure .week
  | other => .error ("date field " ++ other)

def dateOf (json : Json) : Reading Date := do readDate (← string json)
def timeOf (json : Json) : Reading Time := do readTime (← string json)
def dateTimeOf (json : Json) : Reading DateTime := do readDateTime (← string json)

def dateCondition (method : String) (args : List Json) : Reading (Option DateCondition) := do
  let component (field : DateField) : Reading (Option DateCondition) := do
    match args with
    | [c, op, v] => pure (some (.component field (← string c) (← string op) (← int64 v)))
    | _ => .error method
  match method, args with
  | "where_date", [c, op, v] => pure (some (.date (← string c) (← string op) (← dateOf v)))
  | "where_between_dates", [c, a, b] =>
    pure (some (.betweenDates (← string c) (← dateOf a) (← dateOf b)))
  | "where_date_time", [c, op, v] =>
    pure (some (.dateTime (← string c) (← string op) (← dateTimeOf v)))
  | "where_between_date_time", [c, a, b] =>
    pure (some (.betweenDateTimes (← string c) (← dateTimeOf a) (← dateTimeOf b)))
  | "where_year", _ => component .year
  | "where_month", _ => component .month
  | "where_day", _ => component .day
  | "where_weekday", _ => component .weekday
  | "where_quarter", _ => component .quarter
  | "where_week", _ => component .week
  | "where_age", [c, op, v] => pure (some (.age (← string c) (← string op) (← int64 v)))
  | "where_time", [c, op, v] => pure (some (.time (← string c) (← string op) (← timeOf v)))
  | "where_current_date", [c, op] => pure (some (.currentDate (← string c) (← string op)))
  | "where_last_days", [c, n] => pure (some (.lastDays (← string c) (← int64 n)))
  | "where_next_days", [c, n] => pure (some (.nextDays (← string c) (← int64 n)))
  | "where_weekend", [c] => pure (some (.weekend (← string c)))
  | "where_date_range", [c, a, b, i] =>
    pure (some (.dateRange (← string c) (← dateOf a) (← dateOf b) (← bool i)))
  | "where_date_between_columns", [c, a, b] =>
    pure (some (.betweenColumns (← string c) (← string a) (← string b)))
  | "where_date_diff", [a, b, op, n] =>
    pure (some (.dateDiff (← string a) (← string b) (← string op) (← int64 n)))
  | "where_time_overlap", [a, b, c, d] =>
    pure (some (.timeOverlap (← string a) (← string b) (← string c) (← string d)))
  | "where_date_trunc", [p, c, op, v] =>
    pure (some (.truncated (← datePart p) (← string c) (← string op) (← dateTimeOf v)))
  | "where_time_window", [c, a, b] =>
    pure (some (.timeWindow (← string c) (← timeOf a) (← timeOf b)))
  | "where_business_days", [c] => pure (some (.businessDays (← string c)))
  | "where_date_format", [c, f, op, v] =>
    pure (some (.formatted (← string c) (← string f) (← string op) (← string v)))
  | "where_time_zone", [c, op, v, z] =>
    pure (some (.timeZone (← string c) (← string op) (← dateTimeOf v) (← string z)))
  | _, _ => pure none

/-- A call on a builder that reads its subqueries with `sub`. -/
def plainStep (subQuery : Json → Reading Query.SubQuery) (method : String) (args : List Json) :
    Reading Query.Step := do
  match method, args with
  | "alias", [a] => pure (.tableAlias (← string a))
  | "remember", [ms] => pure (.remember (Duration.ofMilliseconds (← nat ms)))
  | "select", [cols] => pure (.select (← strings cols))
  | "select_raw", [expr, vs] => pure (.selectRaw (← string expr) (← values vs))
  | "select_sub", [q, a] => pure (.selectSub (← subQuery q) (← string a))
  | "window", [f, p, o, a] =>
    pure (.window (← string f) (← string p) (← string o) (← string a))
  | "row_number", [p, o, a] =>
    pure (.window "ROW_NUMBER()" (← string p) (← string o) (← string a))
  | "rank", [p, o, a] => pure (.window "RANK()" (← string p) (← string o) (← string a))
  | "dense_rank", [p, o, a] => pure (.window "DENSE_RANK()" (← string p) (← string o) (← string a))
  | "where", [c, vs] => pure (.andWhere (← string c) (← values vs))
  | "where_raw", [c, vs] => pure (.andWhere (← string c) (← values vs))
  | "or_where", [c, vs] => pure (.orWhere (← string c) (← values vs))
  | "or_where_raw", [c, vs] => pure (.orWhere (← string c) (← values vs))
  | "where_id", [v] => pure (.whereId (← value v))
  | "where_group", [steps] => pure (.whereGroup .and (← listOf treeStep steps))
  | "or_where_group", [steps] => pure (.whereGroup .or (← listOf treeStep steps))
  | "where_in", [c, vs] => pure (.whereIn (← string c) (← values vs))
  | "where_not_in", [c, vs] => pure (.whereNotIn (← string c) (← values vs))
  | "where_null", [c] => pure (.whereNull (← string c))
  | "where_not_null", [c] => pure (.whereNotNull (← string c))
  | "where_between", [c, a, b] => pure (.whereBetween (← string c) (← value a) (← value b))
  | "where_not_between", [c, a, b] => pure (.whereNotBetween (← string c) (← value a) (← value b))
  | "where_sub_query", [c, op, q] =>
    pure (.whereSubQuery (← string c) (← string op) (← subQuery q))
  | "join", [t, on] => pure (.join .inner (← string t) (some (← string on)))
  | "left_join", [t, on] => pure (.join .left (← string t) (some (← string on)))
  | "right_join", [t, on] => pure (.join .right (← string t) (some (← string on)))
  | "cross_join", [t] => pure (.join .cross (← string t) none)
  | "group_by", [cols] => pure (.groupBy (← strings cols))
  | "having", [c] => pure (.having (← string c))
  | "having_raw", [c, vs] => pure (.havingRaw (← string c) (← values vs))
  | "order_by", [c, d] => pure (.orderBy (← string c) (← string d))
  | "latest", [c] => pure (.orderBy (← string c) "DESC")
  | "oldest", [c] => pure (.orderBy (← string c) "ASC")
  | "limit", [n] => pure (.limit (← uint64 n))
  | "offset", [n] => pure (.offset (← uint64 n))
  | "lock_for_update", [] => pure (.lock "FOR UPDATE")
  | "lock_for_share", [] => pure (.lock "FOR SHARE")
  | "skip_locked", [] => pure (.lockModifier "SKIP LOCKED")
  | "no_wait", [] => pure (.lockModifier "NOWAIT")
  | "sub_query", [a] => pure (.subQuery (← string a))
  | "union", [q] => pure (.union false (← subQuery q))
  | "union_all", [q] => pure (.union true (← subQuery q))
  | _, _ => .error ("builder method " ++ method)

def stepWith (subQuery : Json → Reading Query.SubQuery) (json : Json) : Reading Query.Step := do
  match ← list json with
  | .string method :: args =>
    match ← dateCondition method args with
    | some condition => pure (.whereDate condition)
    | none => plainStep subQuery method args
  | _ => .error ("builder step " ++ json.print)

/-- A builder inside another; `depth` limits how deep they nest. -/
def subQueryAt (depth : Nat) (json : Json) : Reading Query.SubQuery := do
  match depth with
  | 0 => .error "subqueries nest too deep"
  | depth + 1 =>
    let dialect? ← match given? json "driver" with
      | some tag => match Dialect.ofTag (← string tag) with
        | .ok dialect => pure (some dialect)
        | .error error => .error error.message
      | none => pure none
    let steps ← listOr (stepWith (subQueryAt depth)) json "build"
    pure (.mk dialect? (← stringOr json "table" "") steps)

def queryStep : Json → Reading Query.Step := stepWith (subQueryAt Json.depthLimit)

def buildSteps (json : Json) : Reading (List Query.Step) := listOr queryStep json "build"

end FluentSql.Script
