import FluentSql.Text.Digits

/-! Question-mark placeholders outside quoted spans, and their numbered form. -/
namespace FluentSql.Placeholder

/-- The mark that closes the span the scan is in, and after `char` the next one. A span is opened
by either quotation mark and closed by the same mark. -/
def spanAfter (span : Option Char) (char : Char) : Option Char :=
  match span with
  | some mark => if char = mark then none else some mark
  | none => if char = '\'' ∨ char = '"' then some char else none

/-- Replace every placeholder by a dollar sign and its number, counting on from `next`. -/
def number (next : Nat) (span : Option Char) : List Char → List Char
  | [] => []
  | char :: rest =>
    if char = '?' ∧ span = none then
      '$' :: (Text.decimalDigits next ++ number (next + 1) none rest)
    else char :: number next (spanAfter span char) rest

def numbered (sql : String) : String := String.ofList (number 1 none sql.toList)

/-- How many placeholders stand outside quoted spans. -/
def count (span : Option Char) : List Char → Nat
  | [] => 0
  | char :: rest =>
    (if char = '?' ∧ span = none then 1 else 0) + count (spanAfter span char) rest

/-- Placeholders of the parts of a text add up; the second part starts in the span that the first
leaves open. -/
theorem count_append (span : Option Char) (first rest : List Char) :
    count span (first ++ rest) = count span first + count (first.foldl spanAfter span) rest := by
  induction first generalizing span with
  | nil => simp [count]
  | cons char first ih => simp [count, ih, Nat.add_assoc]

end FluentSql.Placeholder
