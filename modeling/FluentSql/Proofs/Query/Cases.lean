import FluentSql.Proofs.Predicate.Precedence
import FluentSql.Query.Writes

/-! Assignments with CASE as a backend reads them, and what they make of a row. -/
namespace FluentSql

/-- What stands for a value in an assignment. -/
inductive Term where
  | column (name : String)
  | argument (value : Value)
  deriving DecidableEq

/-- What a list of assignments is made of. -/
inductive Symbol where
  | term (term : Term)
  | equals
  | caseOf
  | whenever
  | yields
  | otherwise
  | done
  | comma
  deriving DecidableEq

namespace Symbol

def text : Symbol → String
  | .term (.column name) => name
  | .term (.argument _) => "?"
  | .equals => " = "
  | .caseOf => "CASE "
  | .whenever => " WHEN "
  | .yields => " THEN "
  | .otherwise => " ELSE "
  | .done => " END"
  | .comma => ", "

def args : Symbol → List Value
  | .term (.argument value) => [value]
  | _ => []

/-- The text of symbols that stand next to each other. -/
def written (symbols : List Symbol) : String :=
  symbols.foldr (fun symbol rest => symbol.text ++ rest) ""

end Symbol

/-- One column is set by the value of another: to what belongs to the first branch with this value,
or else to something for all others. -/
structure CaseAssignment where
  column : String
  subject : Term
  branches : List (Term × Term)
  otherwise : Term
  deriving DecidableEq

/-! Reading symbols. -/

/-- The branches in front, and what stands behind them. -/
def readBranches : List Symbol → List (Term × Term) × List Symbol
  | .whenever :: .term key :: .yields :: .term value :: rest =>
    ((key, value) :: (readBranches rest).1, (readBranches rest).2)
  | rest => ([], rest)

/-- The assignment in front, and what stands behind it. -/
def readAssignment : List Symbol → Option (CaseAssignment × List Symbol)
  | .term (.column column) :: .equals :: .caseOf :: .term subject :: rest =>
    match readBranches rest with
    | (branches, .otherwise :: .term otherwise :: .done :: behind) =>
      some (⟨column, subject, branches, otherwise⟩, behind)
    | _ => none
  | _ => none

/-- Assignments with commas between them. -/
inductive ReadsAssignments : List Symbol → List CaseAssignment → Prop where
  | last {symbols assignment} (only : readAssignment symbols = some (assignment, [])) :
      ReadsAssignments symbols [assignment]
  | next {symbols assignment rest assignments}
      (first : readAssignment symbols = some (assignment, .comma :: rest))
      (others : ReadsAssignments rest assignments) :
      ReadsAssignments symbols (assignment :: assignments)

/-- There is one way to read a list of assignments. -/
theorem ReadsAssignments.unique {symbols : List Symbol} {assignments others : List CaseAssignment}
    (reads : ReadsAssignments symbols assignments) (again : ReadsAssignments symbols others) :
    assignments = others := by
  induction reads generalizing others with
  | last only =>
    cases again with
    | last same =>
      rw [only] at same
      obtain ⟨rfl, -⟩ := Prod.mk.inj (Option.some.inj same)
      rfl
    | next first _ =>
      rw [only] at first
      cases (Prod.mk.inj (Option.some.inj first)).2
  | next first _ ih =>
    cases again with
    | last only =>
      rw [first] at only
      cases (Prod.mk.inj (Option.some.inj only)).2
    | next same behind =>
      rw [first] at same
      obtain ⟨rfl, rest⟩ := Prod.mk.inj (Option.some.inj same)
      obtain rfl := (List.cons.inj rest).2
      rw [ih behind]

/-! What assignments do. -/

/-- The values of a row under its columns. -/
abbrev Cells := String → Value

def Term.value (cells : Cells) : Term → Value
  | .column name => cells name
  | .argument value => value

/-- The value that is assigned, by what a backend takes for equal. -/
def CaseAssignment.value (equal : Value → Value → Bool) (cells : Cells)
    (assignment : CaseAssignment) : Value :=
  match assignment.branches.find? fun branch =>
    equal (assignment.subject.value cells) (branch.1.value cells) with
  | some branch => branch.2.value cells
  | none => assignment.otherwise.value cells

/-- A row behind assignments. All of them see the row as it was. -/
def Cells.assigned (cells : Cells) (equal : Value → Value → Bool)
    (assignments : List CaseAssignment) : Cells := fun column =>
  match assignments.find? fun assignment => assignment.column = column with
  | some assignment => assignment.value equal cells
  | none => cells column

/-! Assignments of one value for each key. -/

namespace Symbol

@[simp] theorem written_nil : written [] = "" := rfl

@[simp] theorem written_cons (symbol : Symbol) (rest : List Symbol) :
    written (symbol :: rest) = symbol.text ++ written rest := rfl

@[simp] theorem written_append (first rest : List Symbol) :
    written (first ++ rest) = written first ++ written rest := by
  induction first with
  | nil => simp
  | cons symbol first ih => simp [ih, String.append_assoc]

/-- Stretches of symbols with commas between them. -/
def separated : List (List Symbol) → List Symbol
  | [] => []
  | [part] => part
  | part :: next :: rest => part ++ .comma :: separated (next :: rest)

theorem written_separated (parts : List (List Symbol)) :
    written (separated parts) = Text.commaList (parts.map written) := by
  induction parts with
  | nil => rfl
  | cons part rest ih =>
    cases rest with
    | nil => rfl
    | cons next rest =>
      simp only [separated, written_append, written_cons, ih, Symbol.text, Text.commaList,
        List.map_cons, Text.join, String.append_assoc]

theorem args_separated (parts : List (List Symbol)) :
    (separated parts).flatMap args = parts.flatMap fun part => part.flatMap args := by
  induction parts with
  | nil => rfl
  | cons part rest ih =>
    cases rest with
    | nil => simp [separated]
    | cons next rest =>
      rw [separated, List.flatMap_append, List.flatMap_cons, ih]
      rfl

/-- Branches for values and what they yield. -/
def branches (rows : List (Value × Value)) : List Symbol :=
  rows.flatMap fun row =>
    [.whenever, .term (.argument row.1), .yields, .term (.argument row.2)]

theorem written_branches (row : Value × Value) (rest : List (Value × Value)) :
    written (branches (row :: rest)) =
      " " ++ Text.join " " (List.replicate (rest.length + 1) "WHEN ? THEN ?") := by
  have branch : " WHEN " ++ "?" ++ " THEN " ++ "?" = " " ++ "WHEN ? THEN ?" := by decide
  induction rest generalizing row with
  | nil =>
    have single : " WHEN " ++ ("?" ++ (" THEN " ++ ("?" ++ ""))) = " " ++ "WHEN ? THEN ?" := by
      decide
    exact single
  | cons next rest ih =>
    have behind := ih next
    rw [List.length_cons, List.replicate_succ, List.replicate_succ, Text.join]
    rw [List.replicate_succ] at behind
    rw [branches, List.flatMap_cons, written_append, ← branches, behind]
    simp only [written_cons, written_nil, Symbol.text, ← String.append_assoc, String.append_empty]
    rw [branch]

theorem args_branches (rows : List (Value × Value)) :
    (branches rows).flatMap args = rows.flatMap fun row => [row.1, row.2] := by
  rw [branches, List.flatMap_assoc]
  rfl

/-- The value of a column by the key of the row, and otherwise what it was. -/
def caseByKey (key column : String) (rows : List (Value × Value)) : List Symbol :=
  .term (.column column) :: .equals :: .caseOf :: .term (.column key) ::
    (branches rows ++ [.otherwise, .term (.column column), .done])

theorem written_caseByKey (key column : String) {rows : List (Value × Value)} (filled : rows ≠ []) :
    written (caseByKey key column rows) = Query.caseText key column rows.length := by
  obtain ⟨row, rest, rfl⟩ := List.exists_cons_of_ne_nil filled
  have opening : " = CASE " = " = " ++ "CASE " := by decide
  simp only [caseByKey, written_cons, written_append, written_branches, written_nil, Symbol.text,
    Query.caseText, List.length_cons, opening, String.append_assoc, String.append_empty]

theorem args_caseByKey (key column : String) (rows : List (Value × Value)) :
    (caseByKey key column rows).flatMap args = rows.flatMap fun row => [row.1, row.2] := by
  simp only [caseByKey, List.flatMap_cons, List.flatMap_append, args_branches]
  simp [args]

end Symbol

/-- One value of a column for each value of the key. -/
def CaseAssignment.byKey (key column : String) (rows : List (Value × Value)) : CaseAssignment where
  column := column
  subject := .column key
  branches := rows.map fun row => (.argument row.1, .argument row.2)
  otherwise := .column column

theorem readBranches_branches (rows : List (Value × Value)) (rest : List Symbol) :
    readBranches (Symbol.branches rows ++ .otherwise :: rest) =
      (rows.map fun row => (.argument row.1, .argument row.2), .otherwise :: rest) := by
  induction rows with
  | nil => rfl
  | cons row rows ih =>
    have apart : Symbol.branches (row :: rows) ++ .otherwise :: rest =
        .whenever :: .term (.argument row.1) :: .yields :: .term (.argument row.2) ::
          (Symbol.branches rows ++ .otherwise :: rest) := rfl
    rw [apart, readBranches, ih]
    rfl

theorem readAssignment_caseByKey (key column : String) (rows : List (Value × Value))
    (behind : List Symbol) :
    readAssignment (Symbol.caseByKey key column rows ++ behind) =
      some (.byKey key column rows, behind) := by
  have apart : Symbol.caseByKey key column rows ++ behind =
      .term (.column column) :: .equals :: .caseOf :: .term (.column key) ::
        (Symbol.branches rows ++ .otherwise :: (.term (.column column) :: .done :: behind)) := by
    simp [Symbol.caseByKey]
  rw [apart, readAssignment, readBranches_branches]
  rfl

theorem reads_separated (key : String) (rows : String → List (Value × Value))
    {columns : List String}
    (filled : columns ≠ []) :
    ReadsAssignments
      (Symbol.separated (columns.map fun column => Symbol.caseByKey key column (rows column)))
      (columns.map fun column => .byKey key column (rows column)) := by
  induction columns with
  | nil => exact absurd rfl filled
  | cons column rest ih =>
    have first := readAssignment_caseByKey key column (rows column)
    cases rest with
    | nil =>
      have only := first []
      rw [List.append_nil] at only
      exact .last only
    | cons next rest => exact .next (first _) (ih (List.cons_ne_nil _ _))

/-- The first value of the key that is equal decides; where there is none the column stays. -/
theorem CaseAssignment.value_byKey (equal : Value → Value → Bool) (cells : Cells)
    (key column : String) (rows : List (Value × Value)) :
    (byKey key column rows).value equal cells =
      ((rows.find? fun row => equal (cells key) row.1).map Prod.snd).getD (cells column) := by
  simp only [value, byKey, List.find?_map, Function.comp_def, Term.value]
  cases rows.find? fun row => equal (cells key) row.1 <;> rfl

/-- Columns that are assigned change, and no others. -/
theorem Cells.assigned_byKey (cells : Cells) (equal : Value → Value → Bool) (key : String)
    (rows : String → List (Value × Value)) (columns : List String) (column : String) :
    cells.assigned equal (columns.map fun column => .byKey key column (rows column)) column =
      if column ∈ columns then
        (((rows column).find? fun row => equal (cells key) row.1).map Prod.snd).getD (cells column)
      else cells column := by
  have named (other : String) : (CaseAssignment.byKey key other (rows other)).column = other := rfl
  simp only [assigned, List.find?_map, Function.comp_def, named]
  by_cases member : column ∈ columns
  · rw [if_pos member, ← CaseAssignment.value_byKey]
    obtain ⟨other, found⟩ := Option.isSome_iff_exists.mp
      (List.find?_isSome.mpr ⟨column, member, decide_eq_true rfl⟩ :
        (columns.find? fun other => other = column).isSome)
    have same : other = column := by simpa using List.find?_some found
    subst same
    rw [found]
    rfl
  · rw [if_neg member]
    have none : columns.find? (fun other => other = column) = none :=
      List.find?_eq_none.mpr fun other present same => member (of_decide_eq_true same ▸ present)
    rw [none]
    rfl

end FluentSql
