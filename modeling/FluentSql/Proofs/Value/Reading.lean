import FluentSql.Decimal.Reader
import FluentSql.Proofs.Text.Reading
import FluentSql.Proofs.Value.Texts

/-! Decimals come back from their texts with the scale that they were written with, and identifiers
from theirs. The reader of decimals takes the digits in one by one; a text never has more of them
than a mantissa and its scale have room for, so that nothing is rounded. -/
namespace FluentSql

namespace Decimal
open Text (isDigit digitValue readDigits decimalDigits pushDigits)

variable {negative point seen : Bool} {mantissa scale : Nat} {rest : List Char}

/-- A digit that fits, with decimals left for what follows it, goes to the mantissa. -/
theorem readPlain_digit {char : Char} (digit : isDigit char = true)
    (fits : mantissa * 10 + digitValue char < 79228162514264337593543950336)
    (room : point = true → rest = [] ∨ scale + 1 < maxScale) :
    readPlain negative point seen mantissa scale (char :: rest) =
      readPlain negative point true (mantissa * 10 + digitValue char)
        (if point then scale + 1 else 0) rest := by
  rw [readPlain, if_pos digit]
  dsimp only
  rw [if_neg (Nat.not_le.mpr fits)]
  cases rest with
  | nil => simp only [readPlain, if_true]
  | cons following beyond =>
    have more : (point && decide (maxScale ≤ if point then scale + 1 else 0)) = false := by
      cases point with
      | false => rfl
      | true =>
        have left := (room rfl).resolve_left (List.cons_ne_nil _ _)
        exact decide_eq_false (Nat.not_le.mpr left)
    dsimp only
    rw [more, Bool.false_and, if_neg Bool.false_ne_true]

theorem readPlain_whole {run : List Char} (digits : ∀ char ∈ run, isDigit char = true)
    (fits : pushDigits mantissa run < 79228162514264337593543950336) :
    readPlain negative false seen mantissa 0 (run ++ rest) =
      readPlain negative false (seen || !run.isEmpty) (pushDigits mantissa run) 0 rest := by
  induction run generalizing seen mantissa with
  | nil => simp
  | cons char run ih =>
    have pointless : false = true → run ++ rest = [] ∨ 0 + 1 < maxScale := nofun
    rw [List.cons_append, readPlain_digit (digits char List.mem_cons_self)
      (Text.push_lt_of_pushDigits fits) pointless, if_neg Bool.false_ne_true,
      ih (fun other member => digits other (List.mem_cons_of_mem _ member)) fits]
    simp

/-- Behind the point every digit counts as a decimal, up to the end of the text. -/
theorem readPlain_fraction {run : List Char} (digits : ∀ char ∈ run, isDigit char = true)
    (fits : pushDigits mantissa run < 79228162514264337593543950336)
    (room : scale + run.length ≤ maxScale) :
    readPlain negative true true mantissa scale run =
      counted? negative (pushDigits mantissa run) (scale + run.length) := by
  induction run generalizing mantissa scale with
  | nil => rfl
  | cons char run ih =>
    have left : run = [] ∨ scale + 1 < maxScale := by
      cases run with
      | nil => exact .inl rfl
      | cons next run =>
        simp only [List.length_cons] at room
        exact .inr (by omega)
    rw [List.length_cons, ← Nat.add_assoc, Nat.add_right_comm] at room ⊢
    rw [readPlain_digit (digits char List.mem_cons_self) (Text.push_lt_of_pushDigits fits)
      fun _ => left, if_pos rfl,
      ih (fun other member => digits other (List.mem_cons_of_mem _ member)) fits room]
    rfl

/-- The digits on both sides of the point make up the mantissa. -/
theorem pushDigits_fraction (value : Decimal) :
    pushDigits (value.mantissa / tenTo value.scale) (value.fraction.drop 1) = value.mantissa := by
  have split := Nat.div_add_mod' value.mantissa (tenTo value.scale)
  have length : (value.fraction.drop 1).length = value.scale := by
    rw [List.length_drop, length_fraction]
    split_ifs <;> omega
  have digits : readDigits (value.fraction.drop 1) = value.mantissa % tenTo value.scale := by
    unfold fraction
    split_ifs with whole
    · rw [whole]
      exact (Nat.mod_one _).symm
    · exact Text.readDigits_padded _ _
  rw [Text.pushDigits_eq, length, digits]
  exact split

theorem counted?_self (value : Decimal) (signed : value.negative = true → value.mantissa ≠ 0) :
    counted? value.negative value.mantissa value.scale = some value := by
  have small : value.scale % (maxScale + 1) = value.scale :=
    Nat.mod_eq_of_lt (Nat.lt_succ_of_le value.scale_le)
  have sign : (value.negative && decide (value.mantissa ≠ 0)) = value.negative := by
    cases negative : value.negative with
    | false => rfl
    | true => exact decide_eq_true (signed negative)
  rw [counted?, small, signed?, sign, make?, dif_pos ⟨value.mantissa_lt, value.scale_le⟩]

/-- The reader takes in the digits of a decimal and stops at its end. -/
theorem readPlain_text (value : Decimal) : readPlain negative false false 0 0
    (decimalDigits (value.mantissa / tenTo value.scale) ++ value.fraction) =
      counted? negative value.mantissa value.scale := by
  have whole : pushDigits 0 (decimalDigits (value.mantissa / tenTo value.scale)) =
      value.mantissa / tenTo value.scale := Text.readDigits_decimalDigits _
  have fits : value.mantissa / tenTo value.scale < 79228162514264337593543950336 :=
    (Nat.div_le_self _ _).trans_lt value.mantissa_lt
  have seen : (false || !(decimalDigits (value.mantissa / tenTo value.scale)).isEmpty) = true := by
    simpa using Text.decimalDigits_ne_nil _
  have all := value.pushDigits_fraction
  have length := value.length_fraction
  rw [readPlain_whole (fun _ => Text.isDigit_of_mem_decimalDigits) (whole.trans_lt fits), whole,
    seen]
  unfold fraction at all length ⊢
  split_ifs at all length ⊢ with integral
  · rw [List.drop_nil, Text.pushDigits_nil] at all
    rw [readPlain, if_pos rfl, all, integral]
  · rw [List.drop_one, List.tail_cons] at all
    rw [List.length_cons, Nat.add_right_cancel_iff] at length
    have point : readPlain negative false true (value.mantissa / tenTo value.scale) 0
        ('.' :: (Text.padded value.scale (value.mantissa % tenTo value.scale)).toList) =
        readPlain negative true true (value.mantissa / tenTo value.scale) 0
          (Text.padded value.scale (value.mantissa % tenTo value.scale)).toList := by
      rw [readPlain]
      rfl
    rw [point, readPlain_fraction (fun _ => Text.isDigit_of_mem_padded)
      (all.trans_lt value.mantissa_lt) (by rw [length, Nat.zero_add]; exact value.scale_le),
      all, length, Nat.zero_add]

theorem readSigned_of_isDigit {first : Char} (digit : isDigit first = true) (rest : List Char) :
    readSigned (first :: rest) = readPlain false false false 0 0 (first :: rest) := by
  unfold readSigned
  split
  · rename_i sign
    exact absurd (List.cons.inj sign).1 (Text.ne_of_isDigit digit _ rfl)
  · rename_i sign
    exact absurd (List.cons.inj sign).1 (Text.ne_of_isDigit digit _ rfl)
  · rfl

theorem readSigned_text (value : Decimal) :
    readSigned value.text.toList = counted? value.negative value.mantissa value.scale := by
  have read (negative : Bool) : readPlain negative false false 0 0 _ = _ := readPlain_text value
  rw [toList_text]
  cases value.negative with
  | true => exact read true
  | false =>
    obtain ⟨first, others, shape⟩ := List.exists_cons_of_ne_nil
      (Text.decimalDigits_ne_nil (value.mantissa / tenTo value.scale))
    have digit : isDigit first = true :=
      Text.isDigit_of_mem_decimalDigits (shape ▸ List.mem_cons_self)
    rw [if_neg Bool.false_ne_true, List.nil_append, ← read false, shape]
    exact readSigned_of_isDigit digit _

/-- A decimal comes back from its text; only a zero has no sign to come back with. -/
theorem parse?_text {value : Decimal} (signed : value.negative = true → value.mantissa ≠ 0) :
    parse? value.text.toList = some value := by
  rw [parse?, readSigned_text, counted?_self value signed]

end Decimal

namespace Uuid

/-- Digits with hyphens between groups of eight, four, four, four and the others. -/
def grouped (digits : List Char) : List Char :=
  digits.take 8 ++ '-' :: ((digits.drop 8).take 4 ++ '-' :: ((digits.drop 12).take 4 ++
    '-' :: ((digits.drop 16).take 4 ++ '-' :: (digits.drop 20).take 12)))

theorem toList_text (uuid : Uuid) :
    uuid.text.toList = grouped (Text.hexDigits 32 uuid.value.toNat) := by
  unfold text grouped
  simp only [String.toList_ofList, List.drop_zero, List.append_assoc, List.cons_append]

theorem length_grouped {digits : List Char} (count : digits.length = 32) :
    (grouped digits).length = 36 := by
  simp [grouped, count]

theorem hyphens_grouped {digits : List Char} (count : digits.length = 32) :
    ∀ place ∈ [8, 13, 18, 23], (grouped digits)[place]? = some '-' := by
  simp [grouped, List.getElem?_append, count]

theorem ofHyphenated?_text (uuid : Uuid) : ofHyphenated? uuid.text.toList = some uuid := by
  have count := Text.length_hexDigits 32 uuid.value.toNat
  have value : BitVec.ofNat 128 uuid.value.toNat = uuid.value := by simp
  have read := Text.readHex_hexDigits (uuid.value.isLt.trans_eq (show 2 ^ 128 = 16 ^ 32 by decide))
  have length := length_grouped count
  have hyphens := hyphens_grouped count
  rw [ofHyphenated?, filter_text, ofDigits?, if_pos count, read, toList_text]
  simp only [length, hyphens 8 (by decide), hyphens 13 (by decide), hyphens 18 (by decide),
    hyphens 23 (by decide), Option.map_some, value]
  rfl

/-- An identifier comes back from its hyphenated text. -/
theorem parse?_text (uuid : Uuid) : parse? uuid.text = some uuid := by
  have length : uuid.text.toList.length = 36 := by
    rw [toList_text]
    exact length_grouped (Text.length_hexDigits _ _)
  unfold parse?
  dsimp only
  rw [if_neg (by omega), if_neg (by omega), if_neg (by omega), ofHyphenated?_text]

end Uuid

end FluentSql
