import FluentSql.Number.Format

/-! Double and single precision numbers, kept as their words. -/
namespace FluentSql

structure Double where
  word : UInt64
  deriving DecidableEq, Hashable, Inhabited

structure Single where
  word : UInt32
  deriving DecidableEq, Hashable, Inhabited

namespace Double
open Number

def ofWord (word : Nat) : Double := ⟨UInt64.ofNat word⟩

def reading (value : Double) : Reading := Format.double.read value.word.toNat

def isNaN (value : Double) : Bool := value.reading = .nan

def zero : Double := ⟨0⟩

/-- The word, with one and the same word for everything that is not a number. -/
def canonicalWord (value : Double) : UInt64 :=
  if value.isNaN then UInt64.ofNat Format.double.quietWord else value.word

def ofReading : Reading → Double
  | .nan => ofWord Format.double.quietWord
  | .infinite negative => ofWord (Format.double.withSign negative Format.double.infinityWord)
  | .finite negative significand exponent =>
    ofWord (Format.double.withSign negative (Format.double.roundBinary significand exponent))

def ofNat (value : Nat) : Double := ofWord (Format.double.roundRatio value 1)

def ofInt (value : Int) : Double :=
  ofWord (Format.double.withSign (value < 0) (Format.double.roundRatio value.natAbs 1))

/-- `digits * 10 ^ exponent`, rounded once. -/
def ofDecimal (negative : Bool) (digits : Nat) (exponent : Int) : Double :=
  ofWord (Format.double.withSign negative (Format.double.roundDecimal digits exponent))

def neg (value : Double) : Double :=
  let sign := Format.double.signWord
  let word := value.word.toNat
  ofWord (if sign ≤ word then word - sign else word + sign)

def isNegative (value : Double) : Bool := Format.double.signWord ≤ value.word.toNat

def isZero (value : Double) : Bool := value.word.toNat % Format.double.signWord = 0

/-- A non-negative finite value as a ratio of natural numbers; nothing else has one. -/
def ratio? (value : Double) : Option (Nat × Nat) :=
  match value.reading with
  | .finite false significand exponent =>
    if exponent < 0 then some (significand, twoTo (-exponent).toNat)
    else some (significand * twoTo exponent.toNat, 1)
  | _ => none

def ofRatio (numerator denominator : Nat) : Double :=
  ofWord (Format.double.roundRatio numerator denominator)

/-- A binary operation on non-negative finite operands, rounded once. -/
def lift (combine : Nat × Nat → Nat × Nat → Nat × Nat) (left right : Double) : Double :=
  match left.ratio?, right.ratio? with
  | some a, some b =>
    let result := combine a b
    ofRatio result.1 result.2
  | _, _ => ofWord Format.double.infinityWord

def addPositive : Double → Double → Double :=
  lift fun a b => (a.1 * b.2 + b.1 * a.2, a.2 * b.2)

def mulPositive : Double → Double → Double :=
  lift fun a b => (a.1 * b.1, a.2 * b.2)

def divPositive : Double → Double → Double :=
  lift fun a b => (a.1 * b.2, a.2 * b.1)

/-- The nearest integer of a non-negative value, a half upwards. -/
def roundPositive (value : Double) : Double :=
  match value.ratio? with
  | some (numerator, denominator) => ofNat ((2 * numerator + denominator) / (2 * denominator))
  | none => value

end Double

namespace Single
open Number

def ofWord (word : Nat) : Single := ⟨UInt32.ofNat word⟩

def reading (value : Single) : Reading := Format.single.read value.word.toNat

def canonicalWord (value : Single) : UInt32 :=
  if value.reading = .nan then UInt32.ofNat Format.single.quietWord else value.word

def ofNat (value : Nat) : Single := ofWord (Format.single.roundRatio value 1)

def ofInt (value : Int) : Single :=
  ofWord (Format.single.withSign (value < 0) (Format.single.roundRatio value.natAbs 1))

end Single

open Number in
/-- Rounded to single precision; not-a-number keeps its sign and the high bits of its payload. -/
def Double.toSingle (value : Double) : Single :=
  match value.reading with
  | .nan =>
    let payload := value.word.toNat % 4503599627370496 / 536870912
    let quiet := if payload < 4194304 then payload + 4194304 else payload
    Single.ofWord (Format.single.withSign value.isNegative (Format.single.infinityWord + quiet))
  | .infinite negative =>
    Single.ofWord (Format.single.withSign negative Format.single.infinityWord)
  | .finite negative significand exponent =>
    Single.ofWord (Format.single.withSign negative
      (Format.single.roundBinary significand exponent))

open Number in
/-- The same number in double precision. -/
def Single.toDouble (value : Single) : Double :=
  match value.reading with
  | .nan =>
    let word := value.word.toNat
    let payload := word % 8388608
    let quiet := if payload < 4194304 then payload + 4194304 else payload
    Double.ofWord (Format.double.withSign (2147483648 ≤ word)
      (Format.double.infinityWord + quiet * 536870912))
  | .infinite negative =>
    Double.ofWord (Format.double.withSign negative Format.double.infinityWord)
  | .finite negative significand exponent =>
    Double.ofWord (Format.double.withSign negative
      (Format.double.roundBinary significand exponent))

end FluentSql
