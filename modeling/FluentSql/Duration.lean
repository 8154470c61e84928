import FluentSql.Number.Format
import FluentSql.Text.Digits

/-! Spans of time in whole nanoseconds. -/
namespace FluentSql

structure Duration where
  nanoseconds : Nat
  deriving DecidableEq, Inhabited, Ord

namespace Duration

def ofMicroseconds (count : Nat) : Duration := ⟨count * 1000⟩

def ofMilliseconds (count : Nat) : Duration := ⟨count * 1000000⟩

def milliseconds (span : Duration) : Nat := span.nanoseconds / 1000000

/-- The decimals of a remainder of `10 ^ places`, without trailing zeros. -/
def fractionText (places remainder : Nat) : String :=
  let digits := (Text.padded places remainder).toList
  let kept := (digits.reverse.dropWhile (· = '0')).reverse
  if remainder = 0 then "" else "." ++ String.ofList kept

def inUnit (span : Duration) (places : Nat) (unit : String) : String :=
  let scale := tenTo places
  Text.natText (span.nanoseconds / scale) ++ fractionText places (span.nanoseconds % scale) ++ unit

/-- The largest of seconds, milliseconds, microseconds and nanoseconds that is at least one. -/
def text (span : Duration) : String :=
  if 1000000000 ≤ span.nanoseconds then span.inUnit 9 "s"
  else if 1000000 ≤ span.nanoseconds then span.inUnit 6 "ms"
  else if 1000 ≤ span.nanoseconds then span.inUnit 3 "µs"
  else span.inUnit 0 "ns"

end Duration
end FluentSql
