import FluentSql.Number.Format
import FluentSql.Text.Digits

/-! Exact decimal numbers: a 96-bit mantissa, a sign and up to 28 decimals, which are kept. -/
namespace FluentSql

structure Decimal where
  negative : Bool
  mantissa : Nat
  scale : Nat
  mantissa_lt : mantissa < 79228162514264337593543950336
  scale_le : scale ≤ 28
  deriving DecidableEq

namespace Decimal

def maxScale : Nat := 28

def make? (negative : Bool) (mantissa scale : Nat) : Option Decimal :=
  if bounds : mantissa < 79228162514264337593543950336 ∧ scale ≤ 28 then
    some ⟨negative, mantissa, scale, bounds.1, bounds.2⟩
  else none

/-- As `make?`, with no sign on zero. -/
def signed? (negative : Bool) (mantissa scale : Nat) : Option Decimal :=
  make? (negative && mantissa ≠ 0) mantissa scale

/-- The same number with another count of decimals: the last digit that goes decides the rounding,
five upward; digits are added only while the mantissa has room for them. -/
def rescaled (negative : Bool) (mantissa scale target : Nat) : Option Decimal :=
  let target := min target maxScale
  if mantissa = 0 then make? negative 0 target
  else if target < scale then
    let dropped := mantissa / tenTo (scale - target - 1)
    make? negative (dropped / 10 + (if dropped % 10 < 5 then 0 else 1)) target
  else
    (List.range (target - scale + 1)).reverse.findSome? fun more =>
      make? negative (mantissa * tenTo more) (scale + more)

def zero : Decimal := ⟨false, 0, 0, by decide, by decide⟩

instance : Inhabited Decimal := ⟨zero⟩

def ofInt64 (value : Int64) : Decimal where
  negative := value < 0
  mantissa := value.toInt.natAbs
  scale := 0
  mantissa_lt := by
    have low := value.le_toInt
    have high := value.toInt_lt
    omega
  scale_le := by decide

def isZero (value : Decimal) : Bool := value.mantissa = 0

/-- Whether nothing but zeros stand after the point. -/
def isWhole (value : Decimal) : Bool := value.mantissa % tenTo value.scale = 0

/-- The number without what stands after the point. -/
def truncated (value : Decimal) : Int :=
  let magnitude : Int := (value.mantissa / tenTo value.scale : Nat)
  if value.negative then -magnitude else magnitude

def text (value : Decimal) : String :=
  let sign := if value.negative then "-" else ""
  let whole := Text.natText (value.mantissa / tenTo value.scale)
  if value.scale = 0 then sign ++ whole
  else sign ++ whole ++ "." ++ Text.padded value.scale (value.mantissa % tenTo value.scale)

end Decimal
end FluentSql
