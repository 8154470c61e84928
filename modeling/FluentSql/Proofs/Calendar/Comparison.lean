import FluentSql.Dialect.Dates
import FluentSql.Proofs.Calendar.Truncation
import FluentSql.Proofs.Value.Texts

/-! Truncated comparisons. Two backends compare the texts of what a part keeps, one compares the
truncated moments: all three put any two moments in the same order. -/
namespace FluentSql

/-- Moments whose texts have a year of four digits and no leap second. -/
def DateTime.Ordinary (moment : DateTime) : Prop :=
  (0 ≤ moment.date.year ∧ moment.date.year ≤ 9999) ∧ moment.time.nanosecond < 1000000000

instance (moment : DateTime) : Decidable moment.Ordinary := inferInstanceAs (Decidable (_ ∧ _))

namespace DatePart
open Text (padded)

def parts : List DatePart := [.year, .month, .day, .hour, .minute, .second]

/-- What stands before a component in a text. -/
def mark : DatePart → List Char
  | .year => []
  | .month => ['-']
  | .day => ['-']
  | .hour => [' ']
  | .minute => [':']
  | .second => [':']

/-- How many digits a component has in a text. -/
def width : DatePart → Nat
  | .year => 4
  | _ => 2

/-- The token that shows a component. -/
def letter : DatePart → Char
  | .year => 'Y'
  | .month => 'm'
  | .day => 'd'
  | .hour => 'H'
  | .minute => 'M'
  | .second => 'S'

/-- A component as it is written, behind its mark. -/
def piece (moment : DateTime) (part : DatePart) : List Char :=
  part.mark ++ (padded part.width (part.component moment).toNat).toList

variable {moment other : DateTime}

theorem width_pos (part : DatePart) : 0 < part.width := by
  cases part <;> decide

end DatePart
end FluentSql
