import FluentSql.Decimal.Basic
import FluentSql.Number.Format
import FluentSql.Postgres.Wire

/-! Decimal numbers on the wire: groups of four decimal digits, the weight of the first group and
the number of decimals shown. -/
namespace FluentSql

namespace Decimal

/-- As many decimals as the mantissa has room for, rounded to nearest. -/
def fitting (mantissa scale : Nat) : Option (Nat × Nat) :=
  (List.range (scale + 1)).findSome? fun fewer =>
    let kept := Number.roundDiv mantissa (tenTo fewer)
    if kept < 79228162514264337593543950336 then some (kept, scale - fewer) else none

end Decimal

namespace Postgres

structure Numeric where
  negative : Bool
  weight : Int
  scale : Nat
  groups : List Nat
  deriving DecidableEq

namespace Numeric

/-- The digits of a number to the base ten thousand. -/
def groupsOf (value : Nat) : List Nat :=
  if value = 0 then [] else groupsOf (value / 10000) ++ [value % 10000]

/-- Groups that only hold zeros are left out at the end, as far as they stand after the point. -/
def trimmed (weight : Int) (groups : List Nat) : List Nat :=
  if weight < 0 then groups
  else
    let whole := weight.toNat + 1
    groups.take whole ++ ((groups.drop whole).reverse.dropWhile (· = 0)).reverse

/-- Zero has no groups and no decimals. -/
def ofDecimal (value : Decimal) : Numeric :=
  if value.isZero then ⟨false, 0, 0, []⟩
  else
    let decimals := (value.scale + 3) / 4
    let groups := groupsOf (value.mantissa * tenTo (4 * decimals - value.scale))
    let weight : Int := groups.length - decimals - 1
    ⟨value.negative, weight, value.scale, trimmed weight groups⟩

def bytes (number : Numeric) : Bytes :=
  wordBytes 2 number.groups.length ++ integerBytes 2 number.weight ++
    wordBytes 2 (if number.negative then 0x4000 else 0) ++ wordBytes 2 number.scale ++
    number.groups.flatMap (wordBytes 2)

/-- Words of two bytes each; a single byte at the end is no word. -/
def readWords : Bytes → List Nat
  | high :: low :: rest => (high.toNat * 256 + low.toNat) :: readWords rest
  | _ => []

/-- Only two signs have a number; the others stand for infinities and for no number at all. -/
def ofBytes? (bytes : Bytes) : Option Numeric :=
  match readWords bytes with
  | count :: weight :: sign :: scale :: groups =>
    if groups.length < count then none
    else if sign = 0 ∨ sign = 0x4000 then
      some ⟨sign = 0x4000, if weight < 0x8000 then (weight : Int) else (weight : Int) - 0x10000,
        scale, groups.take count⟩
    else none
  | _ => none

/-- The groups before the point as one number. -/
def whole? (number : Numeric) : Option Nat :=
  let places := (number.weight + 1).toNat
  let held := number.groups.take places
  let value := held.foldl (fun value group => value * 10000 + group) 0
  if value = 0 then some 0
  else if 25 < places - held.length then none
  else
    let shifted := value * tenTo (4 * (places - held.length))
    if shifted < 79228162514264337593543950336 then some shifted else none

/-- Add the groups after the point one by one. The first group past the last decimal that is kept
only rounds. -/
def addDecimals (mantissa scale : Nat) : (place : Nat) → List Nat → Option (Nat × Nat)
  | _, [] => some (mantissa, scale)
  | place, group :: rest =>
    let next :=
      if place ≤ Decimal.maxScale then
        let common := max scale place
        Decimal.fitting (mantissa * tenTo (common - scale) + group * tenTo (common - place)) common
      else if place = Decimal.maxScale + 4 ∧ 5000 ≤ group then
        Decimal.fitting (mantissa * tenTo (Decimal.maxScale - scale) + 1) Decimal.maxScale
      else some (mantissa, scale)
    next.bind fun sum => addDecimals sum.1 sum.2 (place + 4) rest

def toDecimal? (number : Numeric) : Option Decimal := do
  let whole ← number.whole?
  let skipped := (-number.weight - 1).toNat
  let (mantissa, scale) ←
    addDecimals whole 0 (4 * (skipped + 1)) (number.groups.drop (number.weight + 1).toNat)
  Decimal.rescaled number.negative mantissa scale number.scale

end Numeric
end Postgres
end FluentSql
