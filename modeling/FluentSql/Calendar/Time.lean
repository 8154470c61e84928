import FluentSql.Text.Digits

/-! Times of day. A leap second is a second with more than a second's worth of nanoseconds; the
calendar has it in the last second of a minute only. -/
namespace FluentSql

/-- Whether the numbers name a moment of a day. -/
def Calendar.IsMoment (hour minute second nanosecond : Nat) : Prop :=
  hour < 24 ∧ minute < 60 ∧ second < 60 ∧ nanosecond < 2000000000

instance (hour minute second nanosecond : Nat) :
    Decidable (Calendar.IsMoment hour minute second nanosecond) :=
  inferInstanceAs (Decidable (_ ∧ _ ∧ _ ∧ _))

structure Time where
  hour : Nat
  minute : Nat
  second : Nat
  nanosecond : Nat
  valid : Calendar.IsMoment hour minute second nanosecond
  deriving DecidableEq

namespace Time

/-- A leap second, if this is one, stands where the calendar has them. -/
def Regular (second nanosecond : Nat) : Prop := 1000000000 ≤ nanosecond → second = 59

instance (second nanosecond : Nat) : Decidable (Regular second nanosecond) :=
  inferInstanceAs (Decidable (_ → _))

def moment? (hour minute second nanosecond : Nat) : Option Time :=
  if valid : Calendar.IsMoment hour minute second nanosecond then
    some ⟨hour, minute, second, nanosecond, valid⟩
  else none

/-- The time that a clock and its nanoseconds give, a leap second in second 59 only. -/
def make? (hour minute second nanosecond : Nat) : Option Time :=
  if Regular second nanosecond then moment? hour minute second nanosecond else none

def midnight : Time := ⟨0, 0, 0, 0, by decide⟩

instance : Inhabited Time := ⟨midnight⟩

def secondOfDay (time : Time) : Nat := time.hour * 3600 + time.minute * 60 + time.second

/-- Nanoseconds since midnight; a leap second runs on past its minute. -/
def nanosecondOfDay (time : Time) : Nat := time.secondOfDay * 1000000000 + time.nanosecond

/-- The time a number of seconds after midnight, wrapping around the day. A leap second keeps its
nanoseconds. -/
def ofSecondOfDay (second : Nat) (nanosecond : Nat) : Time :=
  let inDay := second % 86400
  (moment? (inDay / 3600) (inDay / 60 % 60) (inDay % 60) nanosecond).getD midnight

/-- Seconds as they are shown: a leap second counts as the second after it. -/
def shownSecond (time : Time) : Nat := time.second + time.nanosecond / 1000000000

/-- Nothing, or a point and three, six or nine digits, the fewest that lose nothing. -/
def fractionText (nanosecond : Nat) : String :=
  if nanosecond = 0 then ""
  else if nanosecond % 1000000 = 0 then "." ++ Text.padded 3 (nanosecond / 1000000)
  else if nanosecond % 1000 = 0 then "." ++ Text.padded 6 (nanosecond / 1000)
  else "." ++ Text.padded 9 nanosecond

/-- Hours, minutes and seconds, each as two digits. -/
def clockText (time : Time) : String :=
  Text.padded 2 time.hour ++ ":" ++ Text.padded 2 time.minute ++ ":" ++
    Text.padded 2 time.shownSecond

def text (time : Time) : String :=
  time.clockText ++ fractionText (time.nanosecond % 1000000000)

end Time
end FluentSql
