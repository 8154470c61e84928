import FluentSql.Proofs.Placeholder.Filling
import FluentSql.Proofs.Text.Digits
import FluentSql.Proofs.Text.Literal
import FluentSql.Value.Literal

/-! Values as literals of definitions. Each is quoted as a whole or has neither quotes nor question
marks, so a scan for placeholders finds none in it and comes out behind it as it went in. -/
namespace FluentSql.Placeholder

variable {text : String}

/-- Text without placeholders outside its quoted spans is not changed by numbering. -/
theorem number_of_count_eq_zero (next : Nat) (span : Option Char) (text : List Char)
    (unmarked : count span text = 0) : number next span text = text := by
  induction text generalizing span with
  | nil => rfl
  | cons char text ih =>
    by_cases placeholder : char = '?' ∧ span = none
    · simp [count, placeholder] at unmarked
    · have left : count (spanAfter span char) text = 0 := by
        simpa [count, placeholder] using unmarked
      simp [number, placeholder, ih _ left]

theorem Inert.numbered_eq (inert : Inert text) : numbered text = text := by
  rw [numbered, number_of_count_eq_zero 1 none _ inert.marks_eq, String.ofList_toList]

/-- Text without quotation marks and question marks. -/
def Bare (text : String) : Prop :=
  ∀ char ∈ text.toList, char ≠ '\'' ∧ char ≠ '"' ∧ char ≠ '?'

instance (text : String) : Decidable (Bare text) := List.decidableBAll _ text.toList

theorem Bare.inert (bare : Bare text) : Inert text := inert_of_plain bare

/-! Text with words of a statement around it, whose characters decide. -/

theorem Inert.after (inert : Inert text) (words : String) (own : decide (Inert words) = true) :
    Inert (words ++ text) := (of_decide_eq_true own).append inert

theorem Inert.before (inert : Inert text) (words : String) (own : decide (Inert words) = true) :
    Inert (text ++ words) := inert.append (of_decide_eq_true own)

/-! Quoted text. -/

/-- Inside single quotation marks, doubled ones close the span and open it again. -/
theorem foldl_doubleQuotes (chars : List Char) :
    (Text.doubleQuotes chars).foldl spanAfter (some '\'') = some '\'' := by
  induction chars using Text.doubleQuotes.induct with
  | case1 => rfl
  | case2 rest ih => simpa [Text.doubleQuotes, spanAfter] using ih
  | case3 char rest other ih =>
    have plain : char ≠ '\'' := fun same => other same
    simpa [Text.doubleQuotes, spanAfter, plain] using ih

theorem count_doubleQuotes (chars : List Char) :
    count (some '\'') (Text.doubleQuotes chars) = 0 := by
  induction chars using Text.doubleQuotes.induct with
  | case1 => rfl
  | case2 rest ih => simpa [Text.doubleQuotes, count, spanAfter] using ih
  | case3 char rest other ih =>
    have plain : char ≠ '\'' := fun same => other same
    simpa [Text.doubleQuotes, count, spanAfter, plain] using ih

theorem inert_quoted (text : String) : Inert (Text.quoted text) := by
  have chars := Text.toList_quoted text
  constructor
  · simp [Balanced, chars, spanAfter, foldl_doubleQuotes]
  · simp [marks, chars, count, spanAfter, count_append, foldl_doubleQuotes, count_doubleQuotes]

theorem doubleQuotes_eq_self {chars : List Char} (plain : '\'' ∉ chars) :
    Text.doubleQuotes chars = chars := by
  induction chars using Text.doubleQuotes.induct with
  | case1 => rfl
  | case2 rest ih => exact absurd List.mem_cons_self plain
  | case3 char rest other ih =>
    rw [Text.doubleQuotes.eq_3 _ _ other, ih (List.not_mem_of_not_mem_cons plain)]

/-! Numbers. -/

theorem inert_digits {digits : List Char} (each : ∀ char ∈ digits, Text.isDigit char = true) :
    Inert (String.ofList digits) := by
  apply inert_of_plain
  intro char member
  have digit : Text.isDigit char = true := each char (by simpa using member)
  exact ⟨Text.ne_of_isDigit digit _ (by decide), Text.ne_of_isDigit digit _ (by decide),
    Text.ne_of_isDigit digit _ (by decide)⟩

theorem inert_intText (value : Int) : Inert (Text.intText value) := by
  cases value with
  | ofNat value => exact inert_natText value
  | negSucc value => exact (inert_natText (value + 1)).after "-" rfl

theorem inert_zeros (count : Nat) : Inert (Number.zeros count) := by
  apply inert_digits
  intro char member
  rw [List.eq_of_mem_replicate member]
  rfl

theorem inert_positionalText (layout : Number.Layout) {digits : List Char}
    (each : ∀ char ∈ digits, Text.isDigit char = true) (exponent : Int) :
    Inert (Number.positionalText layout digits exponent) := by
  have fraction : Inert (if layout.fraction then ".0" else "") := by split <;> decide
  simp only [Number.positionalText]
  split
  · exact ((inert_digits each).append (inert_zeros _)).append fraction
  · have before (count : Nat) : Inert (String.ofList (digits.take count)) :=
      inert_digits fun char member => each char (List.mem_of_mem_take member)
    have behind (count : Nat) : Inert (String.ofList (digits.drop count)) :=
      inert_digits fun char member => each char (List.mem_of_mem_drop member)
    split
    · exact ((before _).before "." rfl).append (behind _)
    · exact ((inert_zeros _).after "0." rfl).append (inert_digits each)

theorem inert_signed (negative : Bool) (inert : Inert text) :
    Inert (if negative then "-" ++ text else text) := by
  cases negative with
  | false => exact inert
  | true => exact inert.after "-" rfl

/-- Without an exponent a number is digits, a point and a sign, or one of two words. -/
theorem inert_doubleText (value : Double) : Inert (value.text .literal) := by
  unfold Double.text
  split
  · decide
  · exact inert_signed _ (by decide)
  · exact inert_signed _ (by decide)
  · apply inert_signed
    exact inert_positionalText _ (fun char => Text.isDigit_of_mem_decimalDigits) _

theorem inert_decimalText (value : Decimal) : Inert value.text := by
  have sign : Inert (if value.negative then "-" else "") := by split <;> decide
  have whole := sign.append (inert_natText (value.mantissa / tenTo value.scale))
  have places : Inert (Text.padded value.scale (value.mantissa % tenTo value.scale)) := by
    rw [← String.ofList_toList (s := Text.padded _ _)]
    exact inert_digits fun char => Text.isDigit_of_mem_padded
  simp only [Decimal.text]
  by_cases integral : value.scale = 0
  · rw [if_pos integral]
    exact whole
  · rw [if_neg integral]
    exact (whole.before "." rfl).append places

/-- Bytes are quoted as their digits, none of which is an apostrophe. -/
theorem inert_bytes (bytes : List UInt8) : Inert ("X'" ++ Text.hexBytes bytes ++ "'") := by
  have plain : '\'' ∉ (Text.hexBytes bytes).toList := by
    intro member
    rw [Text.hexBytes, String.toList_ofList] at member
    obtain ⟨byte, _, digits⟩ := List.mem_flatMap.mp member
    obtain ⟨digit, small, same⟩ := Text.mem_hexDigits digits
    have other : ∀ digit < 16, '\'' ≠ Text.hexDigit digit := by decide
    exact other digit small same
  have quoted : "X'" ++ Text.hexBytes bytes ++ "'" = "X" ++ Text.quoted (Text.hexBytes bytes) := by
    rw [Text.quoted, doubleQuotes_eq_self plain, String.ofList_toList, ← String.append_assoc,
      ← String.append_assoc]
    rfl
  rw [quoted]
  exact (inert_quoted _).after "X" rfl

/-- No literal has a placeholder or leaves a quote open. -/
theorem inert_literal (value : Value) : Inert value.literal := by
  cases value with
  | null => decide
  | bool value => cases value <;> decide
  | int value => exact inert_intText value.toInt
  | float value => exact inert_doubleText value
  | decimal value => exact inert_decimalText value
  | bytes value => exact inert_bytes value
  | _ => exact inert_quoted _

end FluentSql.Placeholder
