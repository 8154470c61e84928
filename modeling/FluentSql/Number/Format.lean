/-! Binary floating point words, read and rounded in exact integer arithmetic. -/
namespace FluentSql

def twoTo (exponent : Nat) : Nat := Nat.pow 2 exponent

def tenTo (exponent : Nat) : Nat := Nat.pow 10 exponent

namespace Number

/-- The widths of a binary interchange format. -/
structure Format where
  fractionBits : Nat
  exponentBits : Nat
  deriving DecidableEq

namespace Format

def single : Format := ⟨23, 8⟩

def double : Format := ⟨52, 11⟩

def bias (format : Format) : Nat := twoTo (format.exponentBits - 1) - 1

/-- The exponent of the last place of the smallest magnitudes. -/
def minExponent (format : Format) : Int := 1 - (format.bias : Int) - format.fractionBits

def signWord (format : Format) : Nat := twoTo (format.exponentBits + format.fractionBits)

def infinityWord (format : Format) : Nat :=
  (twoTo format.exponentBits - 1) * twoTo format.fractionBits

/-- The word of the default not-a-number. -/
def quietWord (format : Format) : Nat := format.infinityWord + twoTo (format.fractionBits - 1)

end Format

/-- What a word stands for; a finite magnitude is `significand * 2 ^ exponent`. -/
inductive Reading where
  | nan
  | infinite (negative : Bool)
  | finite (negative : Bool) (significand : Nat) (exponent : Int)
  deriving DecidableEq

def Format.read (format : Format) (word : Nat) : Reading :=
  let negative := format.signWord ≤ word
  let magnitude := word % format.signWord
  let fraction := magnitude % twoTo format.fractionBits
  let exponent := magnitude / twoTo format.fractionBits
  if format.infinityWord < magnitude then .nan
  else if format.infinityWord = magnitude then .infinite negative
  else if exponent = 0 then .finite negative fraction format.minExponent
  else .finite negative (fraction + twoTo format.fractionBits) (format.minExponent + (exponent - 1))

/-- The quotient rounded to the nearest integer, a half to the even neighbour. -/
def roundDiv (numerator denominator : Nat) : Nat :=
  let quotient := numerator / denominator
  let twice := 2 * (numerator % denominator)
  if twice < denominator then quotient
  else if denominator < twice then quotient + 1
  else quotient + quotient % 2

/-- `numerator / (denominator * 2 ^ exponent)` rounded to an integer. -/
def roundScaled (numerator denominator : Nat) (exponent : Int) : Nat :=
  if exponent < 0 then roundDiv (numerator * twoTo (-exponent).toNat) denominator
  else roundDiv numerator (denominator * twoTo exponent.toNat)

/-- The magnitude word nearest to a non-negative ratio, infinity past the largest. -/
def Format.roundRatio (format : Format) (numerator denominator : Nat) : Nat :=
  if numerator = 0 then 0
  else
    let precision := format.fractionBits + 1
    let guess : Int := (Nat.log2 numerator : Int) - Nat.log2 denominator - precision
    let fits (exponent : Int) : Bool := roundScaled numerator denominator exponent ≤ twoTo precision
    let exponent := max format.minExponent (if fits guess then guess else guess + 1)
    let place := (exponent - format.minExponent).toNat
    let significand := roundScaled numerator denominator exponent
    if significand < twoTo format.fractionBits then significand
    else
      let word :=
        (place + 1) * twoTo format.fractionBits + (significand - twoTo format.fractionBits)
      if format.infinityWord ≤ word then format.infinityWord else word

def Format.withSign (format : Format) (negative : Bool) (magnitude : Nat) : Nat :=
  if negative then format.signWord + magnitude else magnitude

/-- The word nearest to `significand * 2 ^ exponent`. -/
def Format.roundBinary (format : Format) (significand : Nat) (exponent : Int) : Nat :=
  if exponent < 0 then format.roundRatio significand (twoTo (-exponent).toNat)
  else format.roundRatio (significand * twoTo exponent.toNat) 1

/-- The word nearest to `digits * 10 ^ exponent`; out-of-range exponents are settled without
building the power. -/
def Format.roundDecimal (format : Format) (digits : Nat) (exponent : Int) : Nat :=
  if digits = 0 then 0
  else
    let size : Int := (Nat.log2 digits : Int) / 3 + 1 + exponent
    let floorSize : Int := (Nat.log2 digits : Int) / 4 + exponent
    if size < -400 then 0
    else if 400 < floorSize then format.infinityWord
    else if exponent < 0 then format.roundRatio digits (tenTo (-exponent).toNat)
    else format.roundRatio (digits * tenTo exponent.toNat) 1

end Number
end FluentSql
