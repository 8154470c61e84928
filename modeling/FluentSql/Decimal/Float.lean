import FluentSql.Decimal.Basic
import FluentSql.Number.Double

/-! Decimals and double precision numbers. -/
namespace FluentSql.Decimal

/-- The whole part and the fraction are rounded on their own, and their sum is rounded back to the
decimals that are kept. -/
def toDouble (value : Decimal) : Double :=
  let power := tenTo value.scale
  let whole := Double.ofNat (value.mantissa / power)
  let fraction := (Double.ofNat (value.mantissa % power)).divPositive (Double.ofNat power)
  let magnitude :=
    if value.scale = 0 || fraction.isZero then whole
    else
      let unit := Double.ofNat power
      (((whole.addPositive fraction).mulPositive unit).roundPositive).divPositive unit
  if value.negative && (value.scale ≠ 0 || value.mantissa ≠ 0) then magnitude.neg else magnitude

/-- Digits under way to a decimal: `mantissa * 10 ^ tens`. -/
structure Approximation where
  mantissa : Nat
  tens : Int

def limit : Nat := 79228162514264337593543950336

/-- Trade factors of one half for factors of one fifth or tenth. -/
def halve : Nat → Approximation → Approximation
  | 0, value => value
  | fives + 1, value =>
    let next : Approximation :=
      if value.mantissa % 2 = 0 then ⟨value.mantissa / 2, value.tens + 1⟩
      else if value.mantissa * 5 < limit then ⟨value.mantissa * 5, value.tens⟩
      else ⟨value.mantissa / 2, value.tens + 1⟩
    halve fives next

/-- Trade factors of two and five for factors of ten. -/
def double : Nat → Nat → Approximation → Option Approximation
  | 0, _, value => some value
  | _, 0, value => some value
  | fuel + 1, fives, value =>
    if value.mantissa < 39614081257132168796771975168 then
      double fuel (fives - 1) ⟨value.mantissa * 2, value.tens - 1⟩
    else if (fives : Int) < 2 * value.tens then none
    else double fuel (fives - 1) ⟨value.mantissa / 5, value.tens⟩

/-- Write out the zeros of positive powers of ten. -/
def fill : Nat → Approximation → Option Approximation
  | 0, value => some value
  | zeros + 1, value =>
    if value.mantissa * 10 < limit then fill zeros ⟨value.mantissa * 10, value.tens - 1⟩ else none

/-- Drop decimals past the twenty-eighth, the last one dropped rounds. -/
def shorten : Nat → Approximation → Approximation
  | 0, value => value
  | fuel + 1, value =>
    if value.tens < -28 then
      let quotient := value.mantissa / 10
      if quotient = 0 then ⟨0, 0⟩
      else shorten fuel ⟨if value.mantissa % 10 < 5 then quotient else quotient + 1, value.tens + 1⟩
    else value

/-- Drop decimals that a significand of 52 bits does not hold. -/
def limitDigits : Nat → Approximation → Approximation
  | 0, value => value
  | fuel + 1, value =>
    if value.tens < 0 ∧ 4503599627370496 ≤ value.mantissa then
      let quotient := value.mantissa / 10
      limitDigits fuel ⟨if value.mantissa % 10 < 5 then quotient else quotient + 1, value.tens + 1⟩
    else value

def dropZeros : Nat → Approximation → Approximation
  | 0, value => value
  | fuel + 1, value =>
    if value.tens < 0 ∧ value.mantissa % 10 = 0 then
      dropZeros fuel ⟨value.mantissa / 10, value.tens + 1⟩
    else value

/-- A decimal close to a finite number, within what a double precision significand tells; absent
when it is too large. A number too small for any decimal is a zero of the same sign. -/
def ofDouble? (number : Double) : Option Decimal :=
  match number.reading with
  | .nan => none
  | .infinite _ => none
  | .finite negative 0 _ => make? negative 0 0
  | .finite negative significand exponent =>
    let start : Approximation := ⟨significand, exponent⟩
    let balanced :=
      if exponent < 0 then some (halve (-exponent).toNat start)
      else double exponent.toNat exponent.toNat start
    match balanced.bind fun value => fill value.tens.toNat value with
    | none => none
    | some value =>
      let steps := value.tens.natAbs
      let rounded := limitDigits steps (shorten steps value)
      let final := dropZeros rounded.tens.natAbs rounded
      make? negative final.mantissa (-final.tens).toNat

end FluentSql.Decimal
