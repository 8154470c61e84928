import FluentSql.Json.Source
import FluentSql.Number.Shortest
import FluentSql.Proofs.Text.Digits
import Mathlib.Data.List.Basic

/-! Numbers in JSON text: how they are written, and that the reader takes each of them whole. -/
namespace FluentSql.Json
open Text (Stops isDigit readDigits decimalDigits)

/-- A run of at least one digit. -/
structure Digits (run : List Char) : Prop where
  some : run ≠ []
  all : ∀ char ∈ run, isDigit char = true

theorem Digits.decimalDigits (value : Nat) : Digits (decimalDigits value) :=
  ⟨Text.decimalDigits_ne_nil value, fun _ => Text.isDigit_of_mem_decimalDigits⟩

theorem Digits.zero : Digits ['0'] := ⟨List.cons_ne_nil _ _, List.all_eq_true.mp rfl⟩

theorem Digits.append {front back : List Char} (first : Digits front)
    (second : ∀ char ∈ back, isDigit char = true) : Digits (front ++ back) := by
  refine ⟨List.append_ne_nil_of_left_ne_nil first.some back, ?_⟩
  intro char member
  exact (List.mem_append.mp member).elim (first.all char) (second char)

theorem Digits.take {run : List Char} (written : Digits run) {count : Nat} (positive : 0 < count) :
    Digits (run.take count) := by
  refine ⟨?_, fun char member => written.all char (List.mem_of_mem_take member)⟩
  intro empty
  rcases List.take_eq_nil_iff.mp empty with zero | nothing
  · omega
  · exact written.some nothing

theorem Digits.drop {run : List Char} (written : Digits run) {count : Nat}
    (short : count < run.length) : Digits (run.drop count) := by
  refine ⟨?_, fun char member => written.all char (List.mem_of_mem_drop member)⟩
  intro empty
  have length := List.drop_eq_nil_iff.mp empty
  omega

theorem isDigit_of_mem_zeros {count : Nat} {char : Char}
    (member : char ∈ List.replicate count '0') : isDigit char = true := by
  rw [List.eq_of_mem_replicate member]
  rfl

namespace Numeral

def fractionText : Option (List Char) → List Char
  | none => []
  | some digits => '.' :: digits

def exponentText : Option (Bool × List Char) → List Char
  | none => []
  | some (negative, digits) => 'e' :: (if negative then '-' else '+') :: digits

/-- A number's characters after its sign. -/
def unsigned (numeral : Numeral) : List Char :=
  numeral.whole ++ (fractionText numeral.fraction ++ exponentText numeral.exponent)

def text (numeral : Numeral) : List Char :=
  if numeral.negative then '-' :: numeral.unsigned else numeral.unsigned

def places : Option (Bool × List Char) → Int
  | none => 0
  | some (negative, digits) => if negative then -readDigits digits else readDigits digits

/-- All digits of a number, before and after its point, with the power of ten that they count. -/
def scientific (numeral : Numeral) : Number.Scientific :=
  let fraction := numeral.fraction.getD []
  ⟨readDigits (numeral.whole ++ fraction), places numeral.exponent - fraction.length⟩

/-- What the grammar asks of a number: digits on each side of a point and behind an exponent's
mark, and no leading zero that could be left out. -/
structure Written (numeral : Numeral) : Prop where
  whole : Digits numeral.whole
  lead : numeral.whole.head? = some '0' → numeral.whole = ['0']
  fraction : ∀ digits ∈ numeral.fraction, Digits digits
  exponent : ∀ part ∈ numeral.exponent, Digits part.2

end Numeral

/-- The characters that a number can go on with. -/
def inNumber (char : Char) : Bool := isDigit char || char == '.' || char == 'e' || char == 'E'

namespace Source

variable {rest : List Char}

theorem digits_append {run : List Char} (written : Digits run) (stop : Stops isDigit rest) :
    digits (run ++ rest) = some (run, rest) := by
  obtain ⟨taken, dropped⟩ := Text.run_append written.all stop
  have present : run.isEmpty = false := by simpa using written.some
  unfold digits
  simp only [taken, dropped, present]
  rfl

theorem fractionPart_append {fraction : Option (List Char)}
    (written : ∀ digits ∈ fraction, Digits digits) (stop : Stops isDigit rest)
    (pointless : rest.head? ≠ some '.') :
    fractionPart (Numeral.fractionText fraction ++ rest) = some (fraction, rest) := by
  cases fraction with
  | none =>
    rw [Numeral.fractionText, List.nil_append]
    unfold fractionPart
    split
    · exact absurd rfl pointless
    · rfl
  | some run =>
    rw [Numeral.fractionText, List.cons_append, fractionPart, digits_append (written run rfl) stop]
    rfl

theorem exponentPart_append {exponent : Option (Bool × List Char)}
    (written : ∀ part ∈ exponent, Digits part.2) (stop : Stops inNumber rest) :
    exponentPart (Numeral.exponentText exponent ++ rest) = some (exponent, rest) := by
  cases exponent with
  | none =>
    cases rest with
    | nil => rfl
    | cons mark rest =>
      have other : inNumber mark = false := stop mark rfl
      have unmarked : ¬ (mark = 'e' ∨ mark = 'E') := by
        rintro (rfl | rfl)
        · cases other
        · cases other
      exact if_neg unmarked
  | some part =>
    obtain ⟨negative, run⟩ := part
    have ends : Stops isDigit rest := by
      intro char first
      have other := stop char first
      simp only [inNumber, Bool.or_eq_false_iff] at other
      exact other.1.1.1
    have read := digits_append (written _ rfl) ends
    cases negative
    · simp [Numeral.exponentText, exponentPart, read]
    · simp [Numeral.exponentText, exponentPart, read]

theorem stops_exponentText (exponent : Option (Bool × List Char)) (stop : Stops inNumber rest) :
    Stops isDigit (Numeral.exponentText exponent ++ rest) ∧
      (Numeral.exponentText exponent ++ rest).head? ≠ some '.' := by
  cases exponent with
  | some part => exact ⟨Text.stops_cons rfl _, by simp [Numeral.exponentText]⟩
  | none =>
    rw [Numeral.exponentText, List.nil_append]
    constructor
    · intro char first
      have other := stop char first
      simp only [inNumber, Bool.or_eq_false_iff] at other
      exact other.1.1.1
    · intro point
      cases stop '.' point

theorem stops_fractionText (fraction : Option (List Char)) (stop : Stops isDigit rest) :
    Stops isDigit (Numeral.fractionText fraction ++ rest) := by
  cases fraction with
  | none => exact stop
  | some digits => exact Text.stops_cons rfl _

/-- The reader takes a number up to the character that cannot go on with it. -/
theorem numeral_append {number : Numeral} (written : number.Written) (stop : Stops inNumber rest) :
    numeral number.negative (number.unsigned ++ rest) = some (number, rest) := by
  obtain ⟨ends, pointless⟩ := stops_exponentText number.exponent stop
  have fraction := fractionPart_append written.fraction ends pointless
  have exponent := exponentPart_append written.exponent stop
  have halts := stops_fractionText number.fraction ends
  have present := written.whole.some
  rw [Numeral.unsigned, List.append_assoc, List.append_assoc]
  unfold numeral
  split
  · rename_i after text
    have lead : number.whole = ['0'] := by
      refine written.lead ?_
      have first := congrArg List.head? text
      rwa [List.head?_append_of_ne_nil _ present] at first
    rw [lead, List.singleton_append] at text
    obtain rfl := (List.cons.inj text).2
    have single := Text.any_head?_of_stops halts
    simp only [single, Bool.false_eq_true, if_false, Option.bind_eq_bind, Option.bind_some,
      fraction, exponent, ← lead]
    rfl
  · rw [digits_append written.whole halts]
    simp [fraction, exponent]

end Source

end FluentSql.Json
