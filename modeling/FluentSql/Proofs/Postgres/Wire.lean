import FluentSql.Postgres.Wire
import Mathlib.Algebra.Order.Ring.Int
import Mathlib.Tactic.Positivity
import Mathlib.Tactic.Ring

/-! Integers on the wire. What is written are the bytes of the two's complement, the highest first,
and every number that fits is read back from them. -/
namespace FluentSql.Postgres

/-- Counted from the last byte, every byte holds the next eight binary places of the number, which
is rounded down, so that a negative number has all ones in front. -/
structure TwosComplement (width : Nat) (number : Int) (bytes : Bytes) : Prop where
  length : bytes.length = width
  place : ∀ place < width,
    (bytes[width - 1 - place]?).map UInt8.toNat = some (number / 256 ^ place % 256).toNat

theorem length_wordBytes (width value : Nat) : (wordBytes width value).length = width := by
  induction width generalizing value with
  | zero => rfl
  | succ width ih => rw [wordBytes, List.length_append, ih, List.length_singleton]

theorem getElem?_wordBytes {width place : Nat} (inside : place < width) (value : Nat) :
    ((wordBytes width value)[width - 1 - place]?).map UInt8.toNat =
      some (value / 256 ^ place % 256) := by
  induction width generalizing value place with
  | zero => omega
  | succ width ih =>
    have front := length_wordBytes width (value / 256)
    cases place with
    | zero =>
      have last : width + 1 - 1 - 0 = (wordBytes width (value / 256)).length := by omega
      rw [wordBytes, last, List.getElem?_concat_length, Option.map_some, UInt8.toNat_ofNat']
      simp
    | succ place =>
      have before : width + 1 - 1 - (place + 1) = width - 1 - place := by omega
      have within : width - 1 - place < (wordBytes width (value / 256)).length := by omega
      rw [wordBytes, before, List.getElem?_append_left within, ih (by omega), pow_succ',
        Nat.div_div_eq_div_mul]

theorem readWord_append_singleton (bytes : Bytes) (byte : UInt8) :
    readWord (bytes ++ [byte]) = readWord bytes * 256 + byte.toNat := by
  simp [readWord]

theorem readWord_wordBytes (width value : Nat) :
    readWord (wordBytes width value) = value % 256 ^ width := by
  induction width generalizing value with
  | zero => simp [wordBytes, readWord, Nat.mod_one]
  | succ width ih =>
    rw [wordBytes, readWord_append_singleton, ih, pow_succ', Nat.mod_mul, UInt8.toNat_ofNat']
    omega

theorem twoTo_eight_mul (width : Nat) : twoTo (8 * width) = 256 ^ width := by
  rw [twoTo, Nat.pow_eq, pow_mul]
  rfl

/-- The places inside a word do not show what is cut off above it. -/
theorem emod_place {width place : Nat} (inside : place < width) (number : Int) :
    number % 256 ^ width / 256 ^ place % 256 = number / 256 ^ place % 256 := by
  obtain ⟨above, rfl⟩ := Nat.exists_eq_add_of_lt inside
  have positive : (256 : Int) ^ place ≠ 0 := by positivity
  have whole : number % 256 ^ (place + above + 1) +
      256 ^ place * (256 * (256 ^ above * (number / 256 ^ (place + above + 1)))) = number := by
    conv_rhs => rw [← Int.emod_add_mul_ediv number (256 ^ (place + above + 1))]
    ring
  conv_rhs => rw [← whole]
  rw [Int.add_mul_ediv_left _ _ positive, Int.add_mul_emod_self_left]

theorem integerBytes_eq (width : Nat) (number : Int) :
    integerBytes width number = wordBytes width (number % 256 ^ width).toNat := by
  rw [integerBytes, twoTo_eight_mul, Nat.cast_pow]
  rfl

theorem twosComplement_integerBytes (width : Nat) (number : Int) :
    TwosComplement width number (integerBytes width number) where
  length := length_wordBytes _ _
  place place inside := by
    have nonneg : 0 ≤ number % 256 ^ width := Int.emod_nonneg number (by positivity)
    have digit : (((number % 256 ^ width).toNat / 256 ^ place % 256 : Nat) : Int) =
        number / 256 ^ place % 256 := by
      push_cast
      rw [Int.toNat_of_nonneg nonneg, emod_place inside]
    rw [integerBytes_eq, getElem?_wordBytes inside, ← digit, Int.toNat_natCast]

theorem readWord_integerBytes (width : Nat) (number : Int) :
    (readWord (integerBytes width number) : Int) = number % 256 ^ width := by
  have nonneg : 0 ≤ number % 256 ^ width := Int.emod_nonneg number (by positivity)
  have below : number % 256 ^ width < 256 ^ width := Int.emod_lt_of_pos number (by positivity)
  rw [integerBytes_eq, readWord_wordBytes, Int.natCast_mod, Int.toNat_of_nonneg nonneg,
    Nat.cast_pow]
  exact Int.emod_eq_of_lt nonneg below

theorem twoTo_eight_mul_eq_double {width : Nat} (wide : 0 < width) :
    twoTo (8 * width) = 2 * twoTo (8 * width - 1) := by
  obtain ⟨before, places⟩ := Nat.exists_eq_add_of_lt (show 0 < 8 * width by omega)
  rw [twoTo, twoTo, Nat.pow_eq, Nat.pow_eq, ← pow_succ']
  congr 1
  omega

/-- A number that fits is read back from its bytes. -/
theorem readInteger?_integerBytes {width : Nat} {number : Int} (wide : 0 < width)
    (fits : Fits width number) :
    readInteger? width (integerBytes width number) = some number := by
  obtain ⟨low, high⟩ := fits
  have word := readWord_integerBytes width number
  have double := twoTo_eight_mul_eq_double wide
  have whole : (256 : Int) ^ width = 2 * twoTo (8 * width - 1) := by
    rw [← Nat.cast_ofNat (n := 2), ← Nat.cast_mul, ← double, twoTo_eight_mul, Nat.cast_pow]
    rfl
  have length : (integerBytes width number).length = width := length_wordBytes _ _
  rw [whole] at word
  rw [readInteger?, readWord?, if_pos length, Option.map_some, double, Option.some_inj]
  generalize twoTo (8 * width - 1) = half at *
  by_cases negative : number < 0
  · have shifted : number % (2 * half) = number + 2 * half := by
      rw [← Int.add_emod_right]
      exact Int.emod_eq_of_lt (by omega) (by omega)
    rw [if_neg (by omega)]
    push_cast
    omega
  · have same : number % (2 * half) = number := Int.emod_eq_of_lt (by omega) (by omega)
    rw [if_pos (by omega), word, same]

end FluentSql.Postgres
