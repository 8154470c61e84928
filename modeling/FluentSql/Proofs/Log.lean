import FluentSql.Log
import Mathlib.Data.List.Infix
import Mathlib.Tactic.Common

/-! What the log keeps of a long statement. A byte position is a boundary exactly if a beginning of
the text ends there, so the search goes down to the end of the longest beginning that fits, and
nothing is ever cut off within a character. -/
namespace FluentSql.Log

section Beginnings

variable {front text : String} {place : Nat}

/-- A beginning of a text, by its characters and by what follows it. -/
theorem begins_iff : front.toList <+: text.toList ↔ ∃ back, text = front ++ back := by
  constructor
  · rintro ⟨back, shape⟩
    refine ⟨String.ofList back, String.toList_inj.mp ?_⟩
    rw [String.toList_append, String.toList_ofList, shape]
  · rintro ⟨back, rfl⟩
    rw [String.toList_append]
    exact List.prefix_append _ _

theorem isBoundary_iff :
    isBoundary text place = true ↔
      ∃ front : String, front.toList <+: text.toList ∧ front.utf8ByteSize = place := by
  rw [isBoundary, String.Pos.Raw.isValid_eq_true_iff, String.Pos.Raw.isValid_iff_exists_append]
  constructor
  · rintro ⟨front, back, shape, ends⟩
    exact ⟨front, begins_iff.mpr ⟨back, shape⟩, (congrArg String.Pos.Raw.byteIdx ends).symm⟩
  · rintro ⟨front, begins, rfl⟩
    obtain ⟨back, shape⟩ := begins_iff.mp begins
    exact ⟨front, back, shape, rfl⟩

theorem isBoundary_utf8ByteSize (begins : front.toList <+: text.toList) :
    isBoundary text front.utf8ByteSize = true :=
  isBoundary_iff.mpr ⟨front, begins, rfl⟩

@[simp] theorem isBoundary_zero (text : String) : isBoundary text 0 = true :=
  isBoundary_iff.mpr ⟨"", List.nil_prefix, rfl⟩

/-- What is cut off at a boundary leaves the beginning that ends there. -/
theorem exists_beginning (boundary : isBoundary text place = true) :
    ∃ front, beginning? text place = some front ∧ front.toList <+: text.toList ∧
      front.utf8ByteSize = place := by
  have parts := String.Pos.splits ⟨⟨place⟩, String.Pos.Raw.isValid_eq_true_iff.mp boundary⟩
  refine ⟨_, dif_pos boundary, begins_iff.mpr ⟨_, parts.eq_append⟩, ?_⟩
  exact (congrArg String.Pos.Raw.byteIdx parts.offset_eq_rawEndPos).symm

example : beginning? "aé" 2 = none := by decide

end Beginnings

section Search

variable {text : String} {place other : Nat}

theorem boundaryUpTo_le : boundaryUpTo text place ≤ place := by
  fun_induction boundaryUpTo text place with
  | case1 => exact le_rfl
  | case2 => exact le_rfl
  | case3 place _ ih => exact ih.trans (Nat.le_succ place)

/-- The search stops at a boundary, at the start if nowhere else. -/
theorem isBoundary_boundaryUpTo : isBoundary text (boundaryUpTo text place) = true := by
  fun_induction boundaryUpTo text place with
  | case1 => exact isBoundary_zero text
  | case2 place boundary => exact boundary
  | case3 place _ ih => exact ih

/-- The search passes over no boundary. -/
theorem le_boundaryUpTo (boundary : isBoundary text other = true) (reached : other ≤ place) :
    other ≤ boundaryUpTo text place := by
  fun_induction boundaryUpTo text place with
  | case1 => exact reached
  | case2 place _ => exact reached
  | case3 place within ih =>
    have different : other ≠ place + 1 := by
      rintro rfl
      exact within boundary
    exact ih (by omega)

end Search

/-- The longest beginning of a text that has no more than so many bytes. -/
structure LongestWithin (text : String) (bytes : Nat) (front : String) : Prop where
  begins : front.toList <+: text.toList
  fits : front.utf8ByteSize ≤ bytes
  longest : ∀ other : String, other.toList <+: text.toList → other.utf8ByteSize ≤ bytes →
    other.utf8ByteSize ≤ front.utf8ByteSize

namespace LongestWithin

variable {text front : String} {bytes : Nat}

theorem self (fits : text.utf8ByteSize ≤ bytes) : LongestWithin text bytes text where
  begins := List.prefix_rfl
  fits := fits
  longest other begins _ := by
    obtain ⟨back, rfl⟩ := begins_iff.mp begins
    rw [String.utf8ByteSize_append]
    exact Nat.le_add_right _ _

theorem of_boundaryUpTo (begins : front.toList <+: text.toList)
    (ends : front.utf8ByteSize = boundaryUpTo text bytes) : LongestWithin text bytes front where
  begins := begins
  fits := ends.trans_le boundaryUpTo_le
  longest other begins fits := by
    rw [ends]
    exact le_boundaryUpTo (isBoundary_utf8ByteSize begins) fits

/-- One more character does not fit, and no character has more than four bytes. -/
theorem le_add_three (longest : LongestWithin text bytes front)
    (exceeds : bytes < text.utf8ByteSize) : bytes ≤ front.utf8ByteSize + 3 := by
  obtain ⟨back, shape⟩ := longest.begins
  cases back with
  | nil =>
    rw [List.append_nil, String.toList_inj] at shape
    subst shape
    exact absurd longest.fits exceeds.not_ge
  | cons next back =>
    have begins : (front.push next).toList <+: text.toList := by
      rw [← shape, String.toList_push]
      exact ⟨back, by simp⟩
    have size : (front.push next).utf8ByteSize = front.utf8ByteSize + next.utf8Size :=
      String.utf8ByteSize_push
    have width := next.utf8Size_le_four
    by_contra short
    have longer := longest.longest (front.push next) begins (by omega)
    have positive := next.utf8Size_pos
    omega

end LongestWithin

/-- Cutting off always succeeds, with the longest beginning that fits. -/
theorem exists_truncated (sql : String) (bytes : Nat) :
    ∃ kept, truncated? sql bytes = some kept ∧ LongestWithin sql bytes kept := by
  by_cases fits : sql.utf8ByteSize ≤ bytes
  · exact ⟨sql, if_pos fits, .self fits⟩
  · have boundary : isBoundary sql (boundaryUpTo sql bytes) = true := isBoundary_boundaryUpTo
    obtain ⟨kept, cut, begins, ends⟩ := exists_beginning boundary
    exact ⟨kept, (if_neg fits).trans cut, .of_boundaryUpTo begins ends⟩

/-- The search ends at a boundary. A statement is cut at the last one within the limit, at most
three bytes below it, and every statement is shown, whole or cut. -/
theorem statements_cut_at_last_boundary (sql : String) (bytes : Nat) :
    isBoundary sql (boundaryUpTo sql bytes) = true ∧
    (∃ kept, truncated? sql bytes = some kept ∧ LongestWithin sql bytes kept ∧
      isBoundary sql kept.utf8ByteSize = true ∧
      (sql.utf8ByteSize ≤ bytes → kept = sql) ∧
      (bytes < sql.utf8ByteSize → bytes ≤ kept.utf8ByteSize + 3)) ∧
    ∃ text, shown? sql = some text ∧
      (sql.utf8ByteSize ≤ shownBytes ∧ text = sql ∨
        shownBytes < sql.utf8ByteSize ∧
          ∃ kept, LongestWithin sql shownBytes kept ∧ text = kept ++ "...") := by
  refine ⟨isBoundary_boundaryUpTo, ?_, ?_⟩
  · obtain ⟨kept, cut, longest⟩ := exists_truncated sql bytes
    refine ⟨kept, cut, longest, isBoundary_utf8ByteSize longest.begins, ?_, longest.le_add_three⟩
    intro fits
    rw [truncated?, if_pos fits] at cut
    exact (Option.some.inj cut).symm
  · by_cases long : shownBytes < sql.utf8ByteSize
    · obtain ⟨kept, cut, longest⟩ := exists_truncated sql shownBytes
      refine ⟨kept ++ "...", ?_, Or.inr ⟨long, kept, longest, rfl⟩⟩
      rw [shown?, if_pos long, cut, Option.map_some]
    · exact ⟨sql, if_neg long, Or.inl ⟨not_lt.mp long, rfl⟩⟩

example : truncated? "aé" 2 = some "a" := by decide

end FluentSql.Log
