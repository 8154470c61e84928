import FluentSql.Number.Format

/-! The fewest decimal digits that still round to a given binary magnitude. -/
namespace FluentSql.Number

/-- `digits * 10 ^ exponent`. -/
structure Scientific where
  digits : Nat
  exponent : Int
  deriving DecidableEq

/-- What decides between two equally near neighbours. -/
inductive Tie where
  | even
  | upward
  deriving DecidableEq

/-- The reals that round to `center`, all four times as fine as the significand's last place. -/
structure Interval where
  low : Nat
  center : Nat
  high : Nat
  closed : Bool
  exponent : Int

def Format.interval (format : Format) (significand : Nat) (exponent : Int) : Interval where
  low :=
    if significand = twoTo format.fractionBits ∧ format.minExponent < exponent then
      4 * significand - 1
    else 4 * significand - 2
  center := 4 * significand
  high := 4 * significand + 2
  closed := significand % 2 = 0
  exponent := exponent - 2

/-- Factors that compare `count * 2 ^ binary` with `count * 10 ^ decimal` in integers. -/
def scales (binary decimal : Int) : Nat × Nat :=
  (twoTo binary.toNat * tenTo (-decimal).toNat, twoTo (-binary).toNat * tenTo decimal.toNat)

/-- The point of the grid `10 ^ decimal` inside the interval that lies nearest to its center. -/
def Interval.onGrid? (interval : Interval) (tie : Tie) (decimal : Int) : Option Nat :=
  let (binaryUnit, decimalUnit) := scales interval.exponent decimal
  let center := interval.center * binaryUnit
  let inside (count : Nat) : Bool :=
    let point := count * decimalUnit
    let low := interval.low * binaryUnit
    let high := interval.high * binaryUnit
    if interval.closed then low ≤ point && point ≤ high else low < point && point < high
  let below := center / decimalUnit
  let above := below + 1
  let nearer : Nat :=
    let down := center - below * decimalUnit
    let up := above * decimalUnit - center
    if down < up then below
    else if up < down then above
    else match tie with
      | .even => if below % 2 = 0 then below else above
      | .upward => above
  match inside below, inside above with
  | true, true => some nearer
  | true, false => some below
  | false, true => some above
  | false, false => none

/-- Whether `10 ^ decimal` is at most the center. -/
def Interval.reaches (interval : Interval) (decimal : Int) : Bool :=
  let (binaryUnit, decimalUnit) := scales interval.exponent decimal
  decimalUnit ≤ interval.center * binaryUnit

/-- The exponent of the center's first decimal digit. -/
def Interval.leading (interval : Interval) : Int :=
  let guess := ((Nat.log2 interval.center : Int) + interval.exponent) * 30103 / 100000
  if !interval.reaches guess then guess - 1
  else if interval.reaches (guess + 1) then guess + 1
  else guess

/-- Grids from coarse to fine; the first that meets the interval wins. -/
def Interval.search (interval : Interval) (tie : Tie) : Nat → Int → Scientific
  | 0, decimal => ⟨(interval.onGrid? tie decimal).getD 0, decimal⟩
  | fuel + 1, decimal =>
    match interval.onGrid? tie decimal with
    | some digits => ⟨digits, decimal⟩
    | none => interval.search tie fuel (decimal - 1)

/-- Drop trailing zeros; `fuel` bounds their number. -/
def Scientific.strip : Nat → Scientific → Scientific
  | 0, value => value
  | fuel + 1, value =>
    if value.digits ≠ 0 ∧ value.digits % 10 = 0 then
      strip fuel ⟨value.digits / 10, value.exponent + 1⟩
    else value

/-- The shortest decimal that reads back as `significand * 2 ^ exponent`; seventeen digits always
suffice in double precision. -/
def Format.shortest (format : Format) (tie : Tie) (significand : Nat) (exponent : Int) :
    Scientific :=
  let interval := format.interval significand exponent
  (interval.search tie 20 interval.leading).strip 20

end FluentSql.Number
