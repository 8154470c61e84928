import FluentSql.Calendar.DateTime
import FluentSql.Number.Double

/-! Binary forms of the PostgreSQL protocol: words are written with the highest byte first. -/
namespace FluentSql.Postgres

abbrev Bytes := List UInt8

/-- The lowest `width` bytes of a number. -/
def wordBytes : (width value : Nat) → Bytes
  | 0, _ => []
  | width + 1, value => wordBytes width (value / 256) ++ [UInt8.ofNat (value % 256)]

def readWord (bytes : Bytes) : Nat :=
  bytes.foldl (fun value byte => value * 256 + byte.toNat) 0

/-- A word of exactly so many bytes. -/
def readWord? (width : Nat) (bytes : Bytes) : Option Nat :=
  if bytes.length = width then some (readWord bytes) else none

/-- The two's complement of a number in so many bytes. -/
def integerBytes (width : Nat) (value : Int) : Bytes :=
  wordBytes width (value % twoTo (8 * width)).toNat

/-- Whether a number has a two's complement in so many bytes. -/
def Fits (width : Nat) (value : Int) : Prop :=
  -(twoTo (8 * width - 1) : Int) ≤ value ∧ value < twoTo (8 * width - 1)

instance (width : Nat) (value : Int) : Decidable (Fits width value) :=
  inferInstanceAs (Decidable (_ ∧ _))

/-- The number whose two's complement the bytes are. -/
def readInteger? (width : Nat) (bytes : Bytes) : Option Int :=
  (readWord? width bytes).map fun word =>
    if word < twoTo (8 * width - 1) then (word : Int) else (word : Int) - twoTo (8 * width)

/-- Days since the first day of the year 2000. -/
def dateBytes (date : Date) : Bytes := integerBytes 4 date.daysSinceEpoch

def readDate? (bytes : Bytes) : Option Date :=
  (readInteger? 4 bytes).bind Date.ofDaysSinceEpoch?

/-- Whole microseconds since midnight. -/
def timeBytes (time : Time) : Bytes := integerBytes 8 (time.nanosecondOfDay / 1000 : Nat)

/-- Microseconds wrap around the day. -/
def readTime? (bytes : Bytes) : Option Time :=
  (readInteger? 8 bytes).map fun microseconds =>
    let inDay := (microseconds % 86400000000).toNat
    Time.ofSecondOfDay (inDay / 1000000) (inDay % 1000000 * 1000)

/-- Whole microseconds since the start of the year 2000, cut toward it. -/
def dateTimeBytes (moment : DateTime) : Bytes :=
  integerBytes 8 (moment.nanosecondsSinceEpoch.tdiv 1000)

def readDateTime? (bytes : Bytes) : Option DateTime :=
  (readInteger? 8 bytes).bind DateTime.ofMicrosecondsSinceEpoch?

end FluentSql.Postgres
