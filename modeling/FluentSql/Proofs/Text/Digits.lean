import FluentSql.Text.Digits
import FluentSql.Text.Hex
import Mathlib.Data.List.Induction
import Mathlib.Tactic.Ring

/-! Texts of numbers and what can be read off them again: the digits, their count and the number. -/
namespace FluentSql.Text

/-- The first character, if there is one, does not go on with a run of such characters. -/
def Stops (inRun : Char → Bool) (text : List Char) : Prop :=
  ∀ char ∈ text.head?, inRun char = false

theorem stops_cons {inRun : Char → Bool} {char : Char} (stop : inRun char = false)
    (rest : List Char) : Stops inRun (char :: rest) := by
  intro first member
  cases member
  exact stop

theorem stops_nil (inRun : Char → Bool) : Stops inRun [] := by
  intro first member
  cases member

theorem any_head?_of_stops {inRun : Char → Bool} {text : List Char} (stop : Stops inRun text) :
    text.head?.any inRun = false := by
  cases text with
  | nil => rfl
  | cons char rest => exact stop char rfl

/-- A run of characters ends where the first other one stands. -/
theorem run_append {inRun : Char → Bool} {run rest : List Char}
    (continues : ∀ char ∈ run, inRun char = true) (stop : Stops inRun rest) :
    (run ++ rest).takeWhile inRun = run ∧ (run ++ rest).dropWhile inRun = rest := by
  induction run with
  | nil =>
    cases rest with
    | nil => exact ⟨rfl, rfl⟩
    | cons char rest =>
      have ended : inRun char = false := stop char rfl
      simp [ended]
  | cons char run ih =>
    obtain ⟨taken, dropped⟩ :=
      ih fun other member => continues other (List.mem_cons_of_mem char member)
    have goes := continues char List.mem_cons_self
    simp [goes, taken, dropped]

/-- A text is split in one way only into a run and a rest that ends it. -/
theorem split_unique (inRun : Char → Bool) {run other front back : List Char}
    (continues : ∀ char ∈ run, inRun char = true) (also : ∀ char ∈ other, inRun char = true)
    (stop : Stops inRun front) (halt : Stops inRun back) (same : run ++ front = other ++ back) :
    run = other ∧ front = back := by
  obtain ⟨taken, dropped⟩ := run_append continues stop
  obtain ⟨taken', dropped'⟩ := run_append also halt
  rw [same] at taken dropped
  exact ⟨taken.symm.trans taken', dropped.symm.trans dropped'⟩

theorem ne_of_isDigit {char : Char} (digit : isDigit char = true) (other : Char)
    (plain : isDigit other = false) : char ≠ other := by
  rintro rfl
  rw [digit] at plain
  cases plain

theorem code_of_isDigit {char : Char} (digit : isDigit char = true) :
    48 ≤ char.toNat ∧ char.toNat ≤ 57 := by
  simpa [isDigit, Char.le_def, UInt32.le_iff_toNat_le] using digit

theorem isUpper_eq_false_of_isDigit {char : Char} (digit : isDigit char = true) :
    char.isUpper = false := by
  have bounds := code_of_isDigit digit
  have small : ¬ 65 ≤ char.toNat := by omega
  refine decide_eq_false ?_
  rintro ⟨above, -⟩
  exact small (by simpa [UInt32.le_iff_toNat_le] using above)

theorem isDigit_of_mem_decimalDigits {value : Nat} {char : Char}
    (member : char ∈ decimalDigits value) : isDigit char = true := by
  have digit := Nat.isDigit_of_mem_toDigits (by decide) (by decide) member
  simpa [isDigit, Char.isDigit, Char.le_def] using digit

theorem decimalDigits_ne_nil (value : Nat) : decimalDigits value ≠ [] := Nat.toDigits_ne_nil

theorem length_decimalDigits_le {value width : Nat} (short : value < 10 ^ width)
    (wide : 0 < width) : (decimalDigits value).length ≤ width :=
  (Nat.length_toDigits_le_iff (by decide) wide).mpr short

/-- Only zero is written with a leading zero. -/
theorem head?_decimalDigits {value : Nat} (positive : 0 < value) :
    (decimalDigits value).head? ≠ some '0' := by
  induction value using Nat.strongRecOn with
  | ind value ih =>
    have step := Nat.toDigits_eq_if (b := 10) (n := value) (by decide)
    rw [decimalDigits, step]
    split
    · rename_i small
      have digit : ∀ last < 10, 0 < last → Nat.digitChar last ≠ '0' := by decide
      intro zero
      exact digit value small positive (Option.some.inj zero)
    · rename_i large
      have front := ih (value / 10) (by omega) (by omega)
      obtain ⟨first, rest, digits⟩ :=
        List.exists_cons_of_ne_nil (decimalDigits_ne_nil (value / 10))
      rw [decimalDigits] at digits front
      rw [digits] at front ⊢
      exact front

theorem decimalDigits_injective {first second : Nat}
    (same : decimalDigits first = decimalDigits second) : first = second := by
  have read := congrArg readDigits same
  rwa [readDigits_decimalDigits, readDigits_decimalDigits] at read

theorem natText_injective {first second : Nat} (same : natText first = natText second) :
    first = second :=
  decimalDigits_injective (String.ofList_injective same)

theorem readDigits_append_singleton (digits : List Char) (digit : Char) :
    readDigits (digits ++ [digit]) = readDigits digits * 10 + digitValue digit := by
  simp [readDigits]

theorem readDigits_append (first second : List Char) :
    readDigits (first ++ second) = readDigits first * 10 ^ second.length + readDigits second := by
  induction second using List.reverseRecOn with
  | nil => simp [readDigits]
  | append_singleton second digit ih =>
    rw [← List.append_assoc, readDigits_append_singleton, ih, readDigits_append_singleton,
      List.length_append, List.length_singleton, pow_succ]
    ring

theorem readDigits_zeros (count : Nat) : readDigits (List.replicate count '0') = 0 := by
  induction count with
  | zero => rfl
  | succ count ih =>
    rw [List.replicate_succ', readDigits_append_singleton, ih]
    rfl

theorem toList_padded (width value : Nat) : (padded width value).toList =
    List.replicate (width - (decimalDigits value).length) '0' ++ decimalDigits value :=
  String.toList_ofList

theorem readDigits_padded (width value : Nat) :
    readDigits (padded width value).toList = value := by
  rw [toList_padded, readDigits_append, readDigits_zeros, readDigits_decimalDigits]
  omega

theorem padded_injective {width first second : Nat}
    (same : padded width first = padded width second) : first = second := by
  rw [← readDigits_padded width first, same, readDigits_padded]

theorem length_padded {width value : Nat} (short : value < 10 ^ width) (wide : 0 < width) :
    (padded width value).toList.length = width := by
  have fits := length_decimalDigits_le short wide
  rw [toList_padded, List.length_append, List.length_replicate]
  omega

theorem isDigit_of_mem_padded {width value : Nat} {char : Char}
    (member : char ∈ (padded width value).toList) : isDigit char = true := by
  rw [toList_padded] at member
  rcases List.mem_append.mp member with zero | digit
  · rw [List.eq_of_mem_replicate zero]
    rfl
  · exact isDigit_of_mem_decimalDigits digit

/-- A natural number begins with a digit, so that a sign tells a negative number apart. -/
theorem natText_ne_negative (value : Nat) (text : String) : natText value ≠ "-" ++ text := by
  intro same
  have chars := congrArg String.toList same
  rw [natText, String.toList_ofList, String.toList_append] at chars
  have signed : '-' ∈ decimalDigits value := by
    rw [chars]
    exact List.mem_append_left _ (List.mem_singleton_self _)
  exact absurd (isDigit_of_mem_decimalDigits signed) (by decide)

theorem intText_injective {first second : Int} (same : intText first = intText second) :
    first = second := by
  cases first with
  | ofNat first =>
    cases second with
    | ofNat second => exact congrArg Int.ofNat (natText_injective same)
    | negSucc second => exact absurd same (natText_ne_negative first _)
  | negSucc first =>
    cases second with
    | ofNat second => exact absurd same.symm (natText_ne_negative second _)
    | negSucc second =>
      have digits : natText (first + 1) = natText (second + 1) := by
        have chars := congrArg String.toList same
        simp only [intText, String.toList_append] at chars
        exact String.toList_inj.mp (List.append_cancel_left chars)
      have equal := natText_injective digits
      rw [Nat.succ.inj equal]

theorem hexDigit_injective : ∀ first < 16, ∀ second < 16,
    hexDigit first = hexDigit second → first = second := by
  decide

theorem length_hexDigits (count value : Nat) : (hexDigits count value).length = count := by
  induction count generalizing value with
  | zero => rfl
  | succ count ih => rw [hexDigits, List.length_append, ih, List.length_singleton]

theorem mem_hexDigits {count value : Nat} {char : Char} (member : char ∈ hexDigits count value) :
    ∃ digit < 16, char = hexDigit digit := by
  induction count generalizing value with
  | zero => cases member
  | succ count ih =>
    rcases List.mem_append.mp member with front | last
    · exact ih front
    · exact ⟨value % 16, Nat.mod_lt _ (by decide), List.mem_singleton.mp last⟩

theorem hexDigits_injective {count first second : Nat} (small : first < 16 ^ count)
    (low : second < 16 ^ count) (same : hexDigits count first = hexDigits count second) :
    first = second := by
  induction count generalizing first second with
  | zero => omega
  | succ count ih =>
    rw [pow_succ] at small low
    obtain ⟨front, last⟩ := List.append_inj' same rfl
    have high : first / 16 = second / 16 := ih (by omega) (by omega) front
    have digit : first % 16 = second % 16 :=
      hexDigit_injective _ (Nat.mod_lt _ (by decide)) _ (Nat.mod_lt _ (by decide))
        (List.singleton_inj.mp last)
    omega

end FluentSql.Text
