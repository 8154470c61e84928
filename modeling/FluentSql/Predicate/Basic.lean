import FluentSql.Value.Basic

/-! Condition trees: clauses with their arguments, and groups of them, built call by call. -/
namespace FluentSql

/-- What stands before a condition that is not the first. -/
inductive Connector where
  | and
  | or
  deriving DecidableEq, Inhabited

def Connector.text : Connector → String
  | .and => "AND"
  | .or => "OR"

inductive Predicate where
  | clause (connector : Connector) (text : String) (args : List Value)
  | group (connector : Connector) (members : List Predicate)
  deriving Inhabited

/-- Conditions in order. -/
abbrev Conditions := List Predicate

namespace Predicate

def connector : Predicate → Connector
  | .clause connector _ _ => connector
  | .group connector _ => connector

/-- The arguments of a clause itself; those of a group belong to its members. -/
def ownArgs : Predicate → List Value
  | .clause _ _ args => args
  | .group _ _ => []

def members : Predicate → List Predicate
  | .clause _ _ _ => []
  | .group _ members => members

end Predicate

namespace Conditions

def empty : Conditions := []

def and (conditions : Conditions) (text : String) (args : List Value) : Conditions :=
  conditions ++ [.clause .and text args]

def or (conditions : Conditions) (text : String) (args : List Value) : Conditions :=
  conditions ++ [.clause .or text args]

/-- Attach a group; nothing is attached for a group without members. -/
def attach (conditions : Conditions) (connector : Connector) (members : Conditions) : Conditions :=
  match members with
  | [] => conditions
  | member :: rest => conditions ++ [.group connector (member :: rest)]

/-- Arguments with no text of their own keep their place among the others. -/
def andArgs (conditions : Conditions) (args : List Value) : Conditions :=
  match args with
  | [] => conditions
  | arg :: rest => conditions ++ [.clause .and "" (arg :: rest)]

/-- One call on a condition list; groups are built by calls of their own. -/
inductive Step where
  | and (text : String) (args : List Value)
  | or (text : String) (args : List Value)
  | group (connector : Connector) (steps : List Step)
  | args (args : List Value)

mutual

def apply (conditions : Conditions) : Step → Conditions
  | .and text args => conditions.and text args
  | .or text args => conditions.or text args
  | .group connector steps => conditions.attach connector (applyAll [] steps)
  | .args args => conditions.andArgs args

def applyAll (conditions : Conditions) : List Step → Conditions
  | [] => conditions
  | step :: rest => applyAll (apply conditions step) rest

end

def ofSteps (steps : List Step) : Conditions := applyAll empty steps

end Conditions
end FluentSql
