import FluentSql.Proofs.Text.Digits
import FluentSql.Text.Digits

/-! Digits taken in one by one, and the number that they add up to. -/
namespace FluentSql.Text

/-- The number that digits make of one that was read before them. -/
def pushDigits (value : Nat) (digits : List Char) : Nat :=
  digits.foldl (fun value digit => value * 10 + digitValue digit) value

@[simp] theorem pushDigits_nil (value : Nat) : pushDigits value [] = value := rfl

@[simp] theorem pushDigits_cons (value : Nat) (digit : Char) (rest : List Char) :
    pushDigits value (digit :: rest) = pushDigits (value * 10 + digitValue digit) rest := by
  rw [pushDigits, List.foldl_cons, pushDigits]

theorem pushDigits_zero (digits : List Char) : pushDigits 0 digits = readDigits digits := rfl

theorem pushDigits_eq (value : Nat) (digits : List Char) :
    pushDigits value digits = value * 10 ^ digits.length + readDigits digits := by
  induction digits generalizing value with
  | nil => simp [readDigits]
  | cons digit rest ih =>
    rw [← pushDigits_zero, pushDigits_cons, pushDigits_cons, ih, ih, List.length_cons, pow_succ]
    ring

theorem le_pushDigits (value : Nat) (digits : List Char) : value ≤ pushDigits value digits := by
  induction digits generalizing value with
  | nil => exact le_rfl
  | cons digit rest ih =>
    rw [pushDigits_cons]
    exact (show value ≤ value * 10 + digitValue digit by omega).trans (ih _)

/-- No number on the way is larger than the last one. -/
theorem push_lt_of_pushDigits {value bound : Nat} {digit : Char} {rest : List Char}
    (fits : pushDigits value (digit :: rest) < bound) : value * 10 + digitValue digit < bound :=
  (le_pushDigits _ rest).trans_lt fits

theorem hexValue?_hexDigit : ∀ digit < 16, hexValue? (hexDigit digit) = some digit := by decide

theorem readHex_append_singleton (digits : List Char) (digit : Char) :
    readHex (digits ++ [digit]) =
      (readHex digits).bind fun value => (hexValue? digit).map (value * 16 + ·) := by
  simp [readHex, List.foldlM_append]

theorem readHex_hexDigits {count value : Nat} (small : value < 16 ^ count) :
    readHex (hexDigits count value) = some value := by
  induction count generalizing value with
  | zero =>
    obtain rfl : value = 0 := by omega
    rfl
  | succ count ih =>
    have digit := hexValue?_hexDigit (value % 16) (Nat.mod_lt _ (by decide))
    rw [pow_succ] at small
    rw [hexDigits, readHex_append_singleton, ih (by omega), digit, Option.bind_some,
      Option.map_some, Nat.mul_comm, Nat.div_add_mod]

theorem padded_ne_nil (width value : Nat) : (padded width value).toList ≠ [] := by
  rw [toList_padded]
  exact List.append_ne_nil_of_right_ne_nil _ (decimalDigits_ne_nil value)

theorem stops_take {inRun : Char → Bool} {rest : List Char} (stop : Stops inRun rest)
    (count : Nat) : Stops inRun (rest.take count) := by
  intro first member
  cases count with
  | zero => cases member
  | succ count =>
    rw [List.head?_take, if_neg (Nat.succ_ne_zero count)] at member
    exact stop first member

theorem isBlank_of_isDigit {char : Char} (digit : isDigit char = true) : isBlank char = false := by
  have bounds := code_of_isDigit digit
  simp only [isBlank, Bool.or_eq_false_iff, Bool.and_eq_false_iff, decide_eq_false_iff_not,
    beq_eq_false_iff_ne]
  omega

theorem trimStart_of_solid {char : Char} (solid : isBlank char = false) (rest : List Char) :
    trimStart (char :: rest) = char :: rest := by
  rw [trimStart, List.dropWhile_cons_of_neg (by simp [solid])]

/-- No blank is skipped before digits. -/
theorem trimStart_digits {run : List Char} (some : run ≠ [])
    (all : ∀ char ∈ run, isDigit char = true) (rest : List Char) :
    trimStart (run ++ rest) = run ++ rest := by
  obtain ⟨first, others, rfl⟩ := List.exists_cons_of_ne_nil some
  exact trimStart_of_solid (isBlank_of_isDigit (all first List.mem_cons_self)) _

end FluentSql.Text
