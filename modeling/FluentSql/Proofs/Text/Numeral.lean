import FluentSql.Proofs.Text.Digits

/-! Whole numbers in texts: digits behind a sign or behind none, and nothing else. -/
namespace FluentSql.Text

/-- Decimal digits and the number that they stand for. -/
inductive Natural : List Char → Nat → Prop where
  | digit (small : value < 10) : Natural [Nat.digitChar value] value
  | snoc (front : Natural run number) (small : value < 10) :
      Natural (run ++ [Nat.digitChar value]) (10 * number + value)

/-- A text of a whole number and the number. -/
inductive Numeral : List Char → Int → Prop where
  | plain (digits : Natural run number) : Numeral run number
  | positive (digits : Natural run number) : Numeral ('+' :: run) number
  | negative (digits : Natural run number) : Numeral ('-' :: run) (-number)

theorem isDigit_digitChar : ∀ value < 10, isDigit (Nat.digitChar value) = true := by decide

theorem digitValue_digitChar {value : Nat} (small : value < 10) :
    digitValue (Nat.digitChar value) = value := by
  rw [digitValue, Nat.toNat_digitChar_of_lt_ten small]
  omega

theorem digitValue_lt {char : Char} (digit : isDigit char = true) : digitValue char < 10 := by
  have bounds := code_of_isDigit digit
  unfold digitValue
  omega

theorem digitChar_digitValue {char : Char} (digit : isDigit char = true) :
    Nat.digitChar (digitValue char) = char := by
  have bounds := code_of_isDigit digit
  apply Char.toNat_inj.mp
  rw [Nat.toNat_digitChar_of_lt_ten (digitValue_lt digit), digitValue]
  omega

theorem Natural.read (digits : Natural run number) :
    run ≠ [] ∧ (∀ char ∈ run, isDigit char = true) ∧ readDigits run = number := by
  induction digits with
  | digit small =>
    refine ⟨List.cons_ne_nil _ _, ?_, ?_⟩
    · rw [List.forall_mem_singleton]
      exact isDigit_digitChar _ small
    · rw [← List.nil_append [_], readDigits_append_singleton, digitValue_digitChar small]
      exact Nat.zero_add _
  | snoc front small ih =>
    obtain ⟨-, all, read⟩ := ih
    refine ⟨List.append_ne_nil_of_right_ne_nil _ (List.cons_ne_nil _ _), ?_, ?_⟩
    · rw [List.forall_mem_append, List.forall_mem_singleton]
      exact ⟨all, isDigit_digitChar _ small⟩
    · rw [readDigits_append_singleton, read, digitValue_digitChar small, Nat.mul_comm]

theorem natural_readDigits {run : List Char} (written : run ≠ [])
    (all : ∀ char ∈ run, isDigit char = true) : Natural run (readDigits run) := by
  induction run using List.reverseRecOn with
  | nil => exact absurd rfl written
  | append_singleton front char ih =>
    rw [List.forall_mem_append, List.forall_mem_singleton] at all
    obtain ⟨digits, digit⟩ := all
    have small := digitValue_lt digit
    have shown := digitChar_digitValue digit
    rw [readDigits_append_singleton, Nat.mul_comm]
    by_cases first : front = []
    · rw [first]
      have alone := Natural.digit small
      rwa [shown, ← Nat.zero_add (digitValue char)] at alone
    · have longer := Natural.snoc (ih first digits) small
      rwa [shown] at longer

/-- Digits are read where there are some and nothing else. -/
theorem unsigned_eq_some_iff {run : List Char} {number : Nat} :
    (if run.isEmpty || !run.all isDigit then none else some (readDigits run)) = some number ↔
      Natural run number := by
  constructor
  · intro read
    split at read
    · cases read
    · rename_i digits
      obtain ⟨written, all⟩ : run ≠ [] ∧ ∀ char ∈ run, isDigit char = true := by
        simpa using digits
      cases read
      exact natural_readDigits written all
  · intro digits
    obtain ⟨written, all, rfl⟩ := digits.read
    have whole : (run.isEmpty || !run.all isDigit) = false := by
      simpa using ⟨written, all⟩
    rw [whole]
    rfl

theorem Natural.not_cons {mark : Char} (sign : isDigit mark = false) :
    ¬ Natural (mark :: run) number := by
  intro digits
  obtain ⟨-, all, -⟩ := digits.read
  exact ne_of_isDigit (all mark List.mem_cons_self) mark sign rfl

theorem numeral_negative_iff {run : List Char} {number : Int} :
    Numeral ('-' :: run) number ↔ ∃ value, Natural run value ∧ -(value : Int) = number := by
  constructor
  · intro numeral
    cases numeral with
    | plain digits => exact absurd digits (Natural.not_cons (by decide))
    | negative digits => exact ⟨_, digits, rfl⟩
  · rintro ⟨value, digits, rfl⟩
    exact .negative digits

theorem numeral_positive_iff {run : List Char} {number : Int} :
    Numeral ('+' :: run) number ↔ ∃ value, Natural run value ∧ (value : Int) = number := by
  constructor
  · intro numeral
    cases numeral with
    | plain digits => exact absurd digits (Natural.not_cons (by decide))
    | positive digits => exact ⟨_, digits, rfl⟩
  · rintro ⟨value, digits, rfl⟩
    exact .positive digits

theorem numeral_plain_iff {text : List Char} {number : Int} (negative : ∀ run, text ≠ '-' :: run)
    (positive : ∀ run, text ≠ '+' :: run) :
    Numeral text number ↔ ∃ value, Natural text value ∧ (value : Int) = number := by
  constructor
  · intro numeral
    cases numeral with
    | plain digits => exact ⟨_, digits, rfl⟩
    | positive digits => exact absurd rfl (positive _)
    | negative digits => exact absurd rfl (negative _)
  · rintro ⟨value, digits, rfl⟩
    exact .plain digits

/-- What is read as a whole number is a text of it, and every text of it is. -/
theorem readInt_eq_some_iff {text : List Char} {number : Int} :
    readInt text = some number ↔ Numeral text number := by
  unfold readInt
  split
  · rw [Option.map_eq_some_iff, numeral_negative_iff]
    simp only [Option.bind_eq_bind, Option.bind_eq_some_iff, unsigned_eq_some_iff,
      Option.pure_def, Option.some.injEq]
    constructor
    · rintro ⟨_, ⟨value, digits, rfl⟩, rfl⟩
      exact ⟨value, digits, rfl⟩
    · rintro ⟨value, digits, rfl⟩
      exact ⟨_, ⟨value, digits, rfl⟩, rfl⟩
  · rw [Option.map_eq_some_iff, numeral_positive_iff]
    simp only [unsigned_eq_some_iff, Int.ofNat_eq_natCast]
  · rename_i negative positive
    rw [Option.map_eq_some_iff, numeral_plain_iff negative positive]
    simp only [unsigned_eq_some_iff, Int.ofNat_eq_natCast]

end FluentSql.Text
