import FluentSql.Proofs.Placeholder.Literals

/-! Numbered statements taken apart. With the numbers that were put in told from the characters that
were copied, a numbered statement can be turned back, and its numbers can be raised. -/
namespace FluentSql.Placeholder

/-! What stands outside quoted spans, without a scan. -/

/-- A text whose quoted spans are closed. A span goes from a quotation mark to the next one of its
kind. -/
inductive SpansClosed : List Char → Prop where
  | nil : SpansClosed []
  | plain {char : Char} {rest : List Char} (single : char ≠ '\'') (double : char ≠ '"')
      (closed : SpansClosed rest) : SpansClosed (char :: rest)
  | span {mark : Char} {inside rest : List Char} (opens : mark = '\'' ∨ mark = '"')
      (within : mark ∉ inside) (closed : SpansClosed rest) :
      SpansClosed (mark :: (inside ++ mark :: rest))

theorem foldl_spanAfter_within {mark : Char} {inside : List Char} (within : mark ∉ inside) :
    inside.foldl spanAfter (some mark) = some mark := by
  induction inside with
  | nil => rfl
  | cons char inside ih =>
    obtain ⟨other, rest⟩ := List.ne_and_not_mem_of_not_mem_cons within
    have stays : spanAfter (some mark) char = some mark := if_neg (Ne.symm other)
    rw [List.foldl_cons, stays, ih rest]

/-- A scan that leaves a span has met the mark that closes it. -/
theorem exists_mark_of_foldl {mark : Char} {text : List Char}
    (left : text.foldl spanAfter (some mark) = none) :
    ∃ inside rest, text = inside ++ mark :: rest ∧ mark ∉ inside ∧
      rest.foldl spanAfter none = none := by
  induction text with
  | nil => cases left
  | cons char text ih =>
    by_cases closes : char = mark
    · subst char
      have ended : spanAfter (some mark) mark = none := if_pos rfl
      rw [List.foldl_cons, ended] at left
      exact ⟨[], text, rfl, List.not_mem_nil, left⟩
    · have stays : spanAfter (some mark) char = some mark := if_neg closes
      rw [List.foldl_cons, stays] at left
      obtain ⟨inside, rest, rfl, within, closed⟩ := ih left
      refine ⟨char :: inside, rest, rfl, ?_, closed⟩
      rw [List.mem_cons, not_or]
      exact ⟨Ne.symm closes, within⟩

/-- The scan is outside quoted spans behind the texts whose spans are closed. -/
theorem spansClosed_iff (text : List Char) :
    SpansClosed text ↔ text.foldl spanAfter none = none := by
  constructor
  · intro closed
    induction closed with
    | nil => rfl
    | plain single double closed ih =>
      have outside : spanAfter none _ = none := if_neg (not_or.mpr ⟨single, double⟩)
      rw [List.foldl_cons, outside, ih]
    | @span mark inside rest opens within closed ih =>
      have entered : spanAfter none mark = some mark := if_pos opens
      have ended : spanAfter (some mark) mark = none := if_pos rfl
      rw [List.foldl_cons, entered, List.foldl_append, foldl_spanAfter_within within,
        List.foldl_cons, ended, ih]
  · intro left
    induction size : text.length using Nat.strong_induction_on generalizing text with
    | _ size ih =>
      subst size
      cases text with
      | nil => exact .nil
      | cons char text =>
        by_cases opens : char = '\'' ∨ char = '"'
        · have entered : spanAfter none char = some char := if_pos opens
          rw [List.foldl_cons, entered] at left
          obtain ⟨inside, rest, rfl, within, closed⟩ := exists_mark_of_foldl left
          exact .span opens within (ih rest.length (by simp; omega) rest closed rfl)
        · have outside : spanAfter none char = none := if_neg opens
          rw [List.foldl_cons, outside] at left
          obtain ⟨single, double⟩ := not_or.mp opens
          exact .plain single double (ih text.length (Nat.lt_succ_self _) text left rfl)

/-! The parts of a numbered text. -/

/-- A character as it was, or the number of a placeholder. -/
inductive Slot where
  | copied (char : Char)
  | numbered (number : Nat)
  deriving DecidableEq

namespace Slot

/-- What was there before; every number stands for a question mark. -/
def source : Slot → Char
  | .copied char => char
  | .numbered _ => '?'

def shown : Slot → List Char
  | .copied char => [char]
  | .numbered number => '$' :: Text.decimalDigits number

def number? : Slot → Option Nat
  | .copied _ => none
  | .numbered number => some number

def raise (amount : Nat) : Slot → Slot
  | .copied char => .copied char
  | .numbered number => .numbered (number + amount)

/-- The text with its numbers turned back into question marks. -/
def restored (slots : List Slot) : String := String.ofList (slots.map source)

def written (slots : List Slot) : String := String.ofList (slots.flatMap shown)

def numbers (slots : List Slot) : List Nat := slots.filterMap number?

end Slot

/-- The parts of a text when its placeholders are numbered on from `next`. -/
def slots (next : Nat) (span : Option Char) : List Char → List Slot
  | [] => []
  | char :: rest =>
    if char = '?' ∧ span = none then .numbered next :: slots (next + 1) none rest
    else .copied char :: slots next (spanAfter span char) rest

theorem slots_mark (next : Nat) (rest : List Char) :
    slots next none ('?' :: rest) = .numbered next :: slots (next + 1) none rest := rfl

theorem slots_copied {char : Char} {span : Option Char} (plain : ¬ (char = '?' ∧ span = none))
    (next : Nat) (rest : List Char) :
    slots next span (char :: rest) = .copied char :: slots next (spanAfter span char) rest :=
  if_neg plain

theorem flatMap_shown_slots (next : Nat) (span : Option Char) (text : List Char) :
    (slots next span text).flatMap Slot.shown = number next span text := by
  induction text generalizing next span with
  | nil => rfl
  | cons char rest ih =>
    by_cases placeholder : char = '?' ∧ span = none
    · obtain ⟨rfl, rfl⟩ := placeholder
      rw [slots_mark, List.flatMap_cons, ih]
      rfl
    · rw [slots_copied placeholder, List.flatMap_cons, ih, number, if_neg placeholder]
      rfl

theorem map_source_slots (next : Nat) (span : Option Char) (text : List Char) :
    (slots next span text).map Slot.source = text := by
  induction text generalizing next span with
  | nil => rfl
  | cons char rest ih =>
    by_cases placeholder : char = '?' ∧ span = none
    · obtain ⟨rfl, rfl⟩ := placeholder
      rw [slots_mark, List.map_cons, ih]
      rfl
    · rw [slots_copied placeholder, List.map_cons, ih]
      rfl

theorem numbers_slots (next : Nat) (span : Option Char) (text : List Char) :
    Slot.numbers (slots next span text) = List.range' next (count span text) := by
  induction text generalizing next span with
  | nil => rfl
  | cons char rest ih =>
    by_cases placeholder : char = '?' ∧ span = none
    · obtain ⟨rfl, rfl⟩ := placeholder
      have outside : spanAfter none '?' = none := rfl
      have tail := ih (next + 1) none
      rw [slots_mark, count, if_pos ⟨rfl, rfl⟩, outside, Nat.add_comm 1, List.range'_succ, ← tail]
      rfl
    · rw [slots_copied placeholder, count, if_neg placeholder, Nat.zero_add, ← ih]
      rfl

theorem slots_append (next : Nat) (span : Option Char) (first rest : List Char) :
    slots next span (first ++ rest) =
      slots next span first ++
        slots (next + count span first) (first.foldl spanAfter span) rest := by
  induction first generalizing next span with
  | nil => rfl
  | cons char first ih =>
    by_cases placeholder : char = '?' ∧ span = none
    · obtain ⟨rfl, rfl⟩ := placeholder
      have outside : spanAfter none '?' = none := rfl
      rw [List.cons_append, slots_mark, slots_mark, ih, count, if_pos ⟨rfl, rfl⟩, List.foldl_cons,
        outside, Nat.add_assoc, List.cons_append]
    · rw [List.cons_append, slots_copied placeholder, slots_copied placeholder, ih, count,
        if_neg placeholder, Nat.zero_add, List.foldl_cons, List.cons_append]

theorem slots_add (next amount : Nat) (span : Option Char) (text : List Char) :
    slots (next + amount) span text = (slots next span text).map (Slot.raise amount) := by
  induction text generalizing next span with
  | nil => rfl
  | cons char rest ih =>
    by_cases placeholder : char = '?' ∧ span = none
    · obtain ⟨rfl, rfl⟩ := placeholder
      rw [slots_mark, slots_mark, Nat.add_right_comm, ih]
      rfl
    · rw [slots_copied placeholder, slots_copied placeholder, ih]
      rfl

/-- A part that stands at some place was made at that place. -/
theorem number?_isSome_of_slots {next : Nat} {span : Option Char} {text : List Char}
    {before behind : List Slot} {slot : Slot}
    (split : slots next span text = before ++ slot :: behind) :
    slot.number?.isSome = true ↔
      slot.source = '?' ∧ (before.map Slot.source).foldl spanAfter span = none := by
  have parts := map_source_slots next span text
  rw [split, List.map_append, List.map_cons] at parts
  have whole := slots_append next span (before.map Slot.source)
    (slot.source :: behind.map Slot.source)
  have lengths : (slots next span (before.map Slot.source)).length = before.length := by
    have same := congrArg List.length (map_source_slots next span (before.map Slot.source))
    simpa only [List.length_map] using same
  rw [parts, split] at whole
  have here := (List.append_inj whole lengths.symm).2
  by_cases placeholder : slot.source = '?' ∧ (before.map Slot.source).foldl spanAfter span = none
  · rw [placeholder.1, placeholder.2, slots_mark] at here
    obtain ⟨rfl, -⟩ := List.cons.inj here
    exact ⟨fun _ => placeholder, fun _ => rfl⟩
  · rw [slots_copied placeholder] at here
    obtain ⟨made, -⟩ := List.cons.inj here
    constructor
    · intro numbered
      rw [made] at numbered
      cases numbered
    · intro there
      exact absurd there placeholder

/-- What tells the parts of a numbered text: they are the characters of the text in order, those
outside quoted spans that are question marks have numbers and no others have, and the numbers count
from one. -/
structure Numbering (sql : String) (slots : List Slot) : Prop where
  restored_eq : Slot.restored slots = sql
  placed : ∀ before slot behind, slots = before ++ slot :: behind →
    (slot.number?.isSome = true ↔ slot.source = '?' ∧ SpansClosed (before.map Slot.source))
  numbers_eq : Slot.numbers slots = List.range' 1 (Slot.numbers slots).length

theorem numbering_slots (sql : String) : Numbering sql (slots 1 none sql.toList) where
  restored_eq := by rw [Slot.restored, map_source_slots, String.ofList_toList]
  placed before slot behind split := by
    rw [spansClosed_iff]
    exact number?_isSome_of_slots split
  numbers_eq := by rw [numbers_slots, List.length_range']

theorem written_slots (sql : String) :
    Dialect.postgres.rebind sql = Slot.written (slots 1 none sql.toList) := by
  rw [Slot.written, flatMap_shown_slots]
  rfl

/-- Numbering leaves no placeholder. -/
theorem count_number (next : Nat) (span : Option Char) (text : List Char) :
    count span (number next span text) = 0 := by
  induction text generalizing next span with
  | nil => rfl
  | cons char rest ih =>
    by_cases placeholder : char = '?' ∧ span = none
    · obtain ⟨rfl, rfl⟩ := placeholder
      have digits : (Text.natText next).toList = Text.decimalDigits next := String.toList_ofList
      have inert := inert_natText next
      have unmarked : count none (Text.decimalDigits next) = 0 := digits ▸ inert.marks_eq
      have closed : (Text.decimalDigits next).foldl spanAfter none = none :=
        digits ▸ inert.balanced
      have sign : spanAfter none '$' = none := rfl
      rw [number, if_pos ⟨rfl, rfl⟩, count, if_neg (by decide), sign, count_append, unmarked,
        closed, ih]
    · rw [number, if_neg placeholder, count, if_neg placeholder, ih]

/-- A statement for the backend that numbers its placeholders has the number of each in its place
and everything else as it was. Numbering it again changes nothing, and behind a statement whose
quotes are closed the numbers of the next one are raised by as many as there are in the first. -/
theorem placeholders_become_numbers :
    (∀ sql, ∃ slots, Numbering sql slots ∧ Dialect.postgres.rebind sql = Slot.written slots) ∧
    (∀ sql, Dialect.postgres.rebind (Dialect.postgres.rebind sql) = Dialect.postgres.rebind sql) ∧
    ∀ first rest : String, SpansClosed first.toList →
      ∃ left right, Numbering first left ∧ Numbering rest right ∧
        Dialect.postgres.rebind first = Slot.written left ∧
        Dialect.postgres.rebind rest = Slot.written right ∧
        Dialect.postgres.rebind (first ++ rest) =
          Dialect.postgres.rebind first ++
            Slot.written (right.map (Slot.raise (Slot.numbers left).length)) := by
  refine ⟨fun sql => ⟨_, numbering_slots sql, written_slots sql⟩, ?_, ?_⟩
  · intro sql
    change String.ofList (number 1 none (String.ofList (number 1 none sql.toList)).toList) = _
    rw [String.toList_ofList, number_of_count_eq_zero 1 none _ (count_number 1 none sql.toList)]
    rfl
  · intro first rest closed
    refine ⟨_, _, numbering_slots first, numbering_slots rest, written_slots first,
      written_slots rest, ?_⟩
    rw [spansClosed_iff] at closed
    rw [written_slots, written_slots, String.toList_append, slots_append, closed, slots_add,
      numbers_slots, List.length_range', Slot.written, Slot.written, Slot.written,
      List.flatMap_append, String.ofList_append]

/-- An apostrophe and a question mark in double quotation marks, and the next condition behind. -/
theorem placeholders_become_numbers_quoted :
    SpansClosed "a = \"it's ?\" AND b = ?".toList ∧
    ∃ left right, Numbering "a = \"it's ?\" AND b = ?" left ∧ Numbering " OR c = ?" right ∧
      Dialect.postgres.rebind "a = \"it's ?\" AND b = ?" = Slot.written left ∧
      Dialect.postgres.rebind " OR c = ?" = Slot.written right ∧
      Dialect.postgres.rebind ("a = \"it's ?\" AND b = ?" ++ " OR c = ?") =
        Dialect.postgres.rebind "a = \"it's ?\" AND b = ?" ++
          Slot.written (right.map (Slot.raise (Slot.numbers left).length)) := by
  have closed : SpansClosed "a = \"it's ?\" AND b = ?".toList :=
    (spansClosed_iff _).mpr (by decide)
  exact ⟨closed, placeholders_become_numbers.2.2 _ _ closed⟩

end FluentSql.Placeholder
