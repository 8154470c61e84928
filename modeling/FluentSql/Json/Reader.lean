import FluentSql.Json.Basic
import FluentSql.Json.Source

/-! The JSON values that texts stand for. -/
namespace FluentSql.Json
open Text (digitValue)

/-- Numbers of a JSON text, before a kind is chosen for them. -/
inductive Amount where
  | int (value : Int)
  | float (value : Double)
  deriving DecidableEq

namespace Numeral

/-- Digits are taken in while they fit an unsigned 64-bit word; the rest is left over. -/
def accumulate (significand : Nat) : List Char → Nat × List Char
  | [] => (significand, [])
  | digit :: rest =>
    let next := significand * 10 + digitValue digit
    if next < 18446744073709551616 then accumulate next rest else (significand, digit :: rest)

/-- Scale by powers of ten in double precision; absent when the result is too large. `fuel` counts
the steps of 308 places, after which a value is zero. -/
def scale : Nat → Double → Int → Option Double
  | 0, value, _ => some value
  | fuel + 1, value, exponent =>
    let power (count : Nat) : Double := Double.ofNat (tenTo count)
    if exponent.natAbs ≤ 308 then
      if 0 ≤ exponent then
        let scaled := value.mulPositive (power exponent.natAbs)
        if scaled.ratio?.isNone then none else some scaled
      else some (value.divPositive (power exponent.natAbs))
    else if value.isZero then some value
    else if 0 ≤ exponent then none
    else scale fuel (value.divPositive (power 308)) (exponent + 308)

def clamp (exponent : Int) : Int := max (-2147483648) (min 2147483647 exponent)

/-- The exponent as written added to the places already counted; absent past 32 bits. -/
def exponentSum (places : Int) : Option (Bool × List Char) → Option Int
  | none => some places
  | some (negative, digits) =>
    let written := Text.readDigits digits
    if 2147483648 ≤ written then none
    else some (clamp (if negative then places - written else places + written))

/-- An integer keeps its kind while it fits 64 bits with or without a sign; minus zero and all
other numbers are floats. -/
def amount? (numeral : Numeral) : Option Amount :=
  let (whole, wholeRest) := accumulate 0 numeral.whole
  let signed (value : Double) : Amount := .float (if numeral.negative then value.neg else value)
  match numeral.fraction, numeral.exponent, wholeRest with
  | none, none, [] =>
    if numeral.negative then
      if whole = 0 ∨ 9223372036854775808 < whole then some (signed (Double.ofNat whole))
      else some (.int (-(whole : Int)))
    else some (.int whole)
  | _, _, _ =>
    let (significand, places) : Nat × Int := match numeral.fraction with
      | none => (whole, wholeRest.length)
      | some fraction =>
        let (all, left) := accumulate whole fraction
        (all, (wholeRest.length : Int) - (fraction.length - left.length : Nat))
    match exponentSum places numeral.exponent with
    | none =>
      let negativeExponent := numeral.exponent.any Prod.fst
      if significand ≠ 0 ∧ !negativeExponent then none else some (signed Double.zero)
    | some exponent => (scale 8 (Double.ofNat significand) exponent).map signed

end Numeral

def ofAmount : Amount → Json
  | .int value => .int value
  | .float value => .float value

mutual

/-- The value of a source nested less than `depth` deep. -/
def ofSource (depth : Nat) : Source → Option Json
  | .null => some .null
  | .bool value => some (.bool value)
  | .number numeral => numeral.amount?.map ofAmount
  | .string content => content.map .string
  | .array items =>
    if depth ≤ 1 then none else (ofItems (depth - 1) items).map .array
  | .object members =>
    if depth ≤ 1 then none else (ofPairs (depth - 1) members).map ofMembers

def ofItems (depth : Nat) : List Source → Option (List Json)
  | [] => some []
  | item :: rest =>
    match ofSource depth item, ofItems depth rest with
    | some value, some values => some (value :: values)
    | _, _ => none

def ofPairs (depth : Nat) : List (Option String × Source) → Option (List (String × Json))
  | [] => some []
  | (key, item) :: rest =>
    match key, ofSource depth item, ofPairs depth rest with
    | some name, some value, some values => some ((name, value) :: values)
    | _, _, _ => none

end

/-- Arrays and objects may nest 127 deep. -/
def depthLimit : Nat := 128

def parse? (text : String) : Option Json :=
  (Source.parse? text.toList).bind (ofSource depthLimit)

end FluentSql.Json
