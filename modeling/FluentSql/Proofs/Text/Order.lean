import FluentSql.Proofs.Text.Reading
import Mathlib.Algebra.Order.Group.Int
import Mathlib.Data.Char
import Mathlib.Data.List.Lex

/-! The order of texts. Runs of digits of one length are ordered as their numbers, and texts of
ASCII characters as their bytes. -/
namespace FluentSql

/-- Behind beginnings of one length the ends decide only where the beginnings are equal. -/
theorem append_lt_append_iff [LT α] {front other back rest : List α}
    (length : front.length = other.length) :
    front ++ back < other ++ rest ↔ front < other ∨ front = other ∧ back < rest := by
  induction front generalizing other with
  | nil =>
    obtain rfl : other = [] := List.length_eq_zero_iff.mp length.symm
    simp
  | cons head tail ih =>
    cases other with
    | nil => simp at length
    | cons first others =>
      have lengths : tail.length = others.length := by simpa using length
      simp only [List.cons_append, List.cons_lt_cons_iff, ih lengths, List.cons.injEq]
      grind

namespace Text

/-- The bytes of a text, in which backends compare it. -/
def bytes (text : String) : List UInt8 := text.toUTF8.data.toList

end Text
end FluentSql
