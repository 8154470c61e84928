import FluentSql.Predicate.Basic

/-! Condition trees as statement text and arguments. -/
namespace FluentSql

namespace Predicate

/-- Join a fragment to the text written so far; empty fragments leave no trace. -/
def joined (written : String) (connector : Connector) (fragment : String) : String :=
  if fragment = "" then written
  else if written = "" then fragment
  else written ++ " " ++ connector.text ++ " " ++ fragment

mutual

def text : Predicate → String
  | .clause _ text _ => text
  | .group _ members =>
    let inner := textFrom "" members
    if inner = "" then "" else "(" ++ inner ++ ")"

def textFrom (written : String) : List Predicate → String
  | [] => written
  | condition :: rest => textFrom (joined written condition.connector condition.text) rest

end

mutual

def args : Predicate → List Value
  | .clause _ _ args => args
  | .group _ members => argsOf members

def argsOf : List Predicate → List Value
  | [] => []
  | condition :: rest => condition.args ++ argsOf rest

end

mutual

/-- Whether a condition shows any text. -/
def shows : Predicate → Bool
  | .clause _ text _ => text ≠ ""
  | .group _ members => anyShows members

def anyShows : List Predicate → Bool
  | [] => false
  | condition :: rest => condition.shows || anyShows rest

end

theorem argsOf_append (first rest : List Predicate) :
    argsOf (first ++ rest) = argsOf first ++ argsOf rest := by
  induction first with
  | nil => simp [argsOf]
  | cons condition first ih => simp [argsOf, ih]

theorem textFrom_append (written : String) (first rest : List Predicate) :
    textFrom written (first ++ rest) = textFrom (textFrom written first) rest := by
  induction first generalizing written with
  | nil => simp [textFrom]
  | cons condition first ih => simp [textFrom, ih]

theorem joined_eq_empty_iff (written : String) (connector : Connector) (fragment : String) :
    joined written connector fragment = "" ↔ written = "" ∧ fragment = "" := by
  unfold joined
  split
  · simp_all
  · split
    · simp_all
    · simp_all [String.append_eq_empty_iff]

mutual

theorem text_eq_empty_iff (condition : Predicate) :
    condition.text = "" ↔ condition.shows = false := by
  match condition with
  | .clause _ text _ => simp [Predicate.text, shows]
  | .group _ members =>
    have inner := textFrom_eq_empty_iff "" members
    simp only [Predicate.text, shows]
    split
    · simp_all
    · simp_all

theorem textFrom_eq_empty_iff (written : String) (conditions : List Predicate) :
    textFrom written conditions = "" ↔ written = "" ∧ anyShows conditions = false := by
  match conditions with
  | [] => simp [textFrom, anyShows]
  | condition :: rest =>
    rw [textFrom, textFrom_eq_empty_iff _ rest, joined_eq_empty_iff, text_eq_empty_iff condition]
    simp [anyShows, and_assoc]

end

end Predicate

namespace Conditions

def text (conditions : Conditions) : String := Predicate.textFrom "" conditions

def args (conditions : Conditions) : List Value := Predicate.argsOf conditions

/-- Whether the conditions show no text; they may still hold arguments. -/
def isBlank (conditions : Conditions) : Bool := !Predicate.anyShows conditions

@[simp] theorem args_and (conditions : Conditions) (text : String) (args : List Value) :
    (conditions.and text args).args = conditions.args ++ args := by
  simp [Conditions.and, Conditions.args, Predicate.argsOf_append, Predicate.argsOf, Predicate.args]

@[simp] theorem args_or (conditions : Conditions) (text : String) (args : List Value) :
    (conditions.or text args).args = conditions.args ++ args := by
  simp [Conditions.or, Conditions.args, Predicate.argsOf_append, Predicate.argsOf, Predicate.args]

@[simp] theorem args_attach (conditions : Conditions) (connector : Connector)
    (members : Conditions) :
    (conditions.attach connector members).args = conditions.args ++ members.args := by
  cases members <;>
    simp [attach, Conditions.args, Predicate.argsOf_append, Predicate.argsOf, Predicate.args]

@[simp] theorem args_andArgs (conditions : Conditions) (args : List Value) :
    (conditions.andArgs args).args = conditions.args ++ args := by
  cases args <;>
    simp [andArgs, Conditions.args, Predicate.argsOf_append, Predicate.argsOf, Predicate.args]

/-- Blank conditions are those whose text is empty. -/
theorem isBlank_iff (conditions : Conditions) :
    conditions.isBlank = true ↔ conditions.text = "" := by
  simp [isBlank, Conditions.text, Predicate.textFrom_eq_empty_iff]

end Conditions
end FluentSql
