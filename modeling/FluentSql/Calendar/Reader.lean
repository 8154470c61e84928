import FluentSql.Calendar.DateTime
import FluentSql.Number.Format
import FluentSql.Text.Digits

/-! Dates and times read from text. Blanks before a number are skipped everywhere. -/
namespace FluentSql.Calendar
open Text (isDigit digitValue readDigits trimStart)

/-- What a step of a pattern reads, and the text it leaves. -/
abbrev Step (α : Type) := List Char → Option (α × List Char)

/-- One to `width` digits. -/
def digits (width : Nat) : Step Nat := fun text =>
  let found := (text.take width).takeWhile isDigit
  if found.isEmpty then none else some (readDigits found, text.drop found.length)

/-- A number of one or two digits after any blanks. -/
def twoDigits : Step Nat := fun text => digits 2 (trimStart text)

/-- Up to four digits, or any number of them after a sign. -/
def signedYear : Step Int := fun text =>
  match trimStart text with
  | '-' :: rest => (digits rest.length rest).map fun result => (-(result.1 : Int), result.2)
  | '+' :: rest => (digits rest.length rest).map fun result => ((result.1 : Int), result.2)
  | rest => (digits 4 rest).map fun result => ((result.1 : Int), result.2)

def literal (char : Char) : Step Unit
  | [] => none
  | head :: rest => if head = char then some ((), rest) else none

/-- Nothing, or a point and digits, of which nine count. -/
def fraction : Step Nat
  | '.' :: rest =>
    let found := rest.takeWhile isDigit
    let counted := found.take 9
    if found.isEmpty then none
    else some (readDigits counted * tenTo (9 - counted.length), rest.drop found.length)
  | rest => some (0, rest)

/-- Blanks before a literal are allowed where `blanks` says so. -/
def mark (blanks : Bool) (char : Char) : Step Unit := fun text =>
  literal char (if blanks then trimStart text else text)

/-- Year, month and day. -/
def dateParts (blanks : Bool) : Step Date := fun text => do
  let (year, text) ← signedYear text
  let (_, text) ← mark blanks '-' text
  let (month, text) ← twoDigits text
  let (_, text) ← mark blanks '-' text
  let (day, text) ← twoDigits text
  let date ← Date.make? year month day
  pure (date, text)

/-- Second sixty is the leap second of second fifty-nine. -/
def timeOf? (hour minute second nanosecond : Nat) : Option Time :=
  if second = 60 then Time.make? hour minute 59 (nanosecond + 1000000000)
  else Time.make? hour minute second nanosecond

/-- Hour, minute, second and fraction. -/
def timeParts (blanks : Bool) : Step Time := fun text => do
  let (hour, text) ← twoDigits text
  let (_, text) ← mark blanks ':' text
  let (minute, text) ← twoDigits text
  let (_, text) ← mark blanks ':' text
  let (second, text) ← twoDigits text
  let (nanosecond, text) ← fraction text
  let time ← timeOf? hour minute second nanosecond
  pure (time, text)

def whole (result : α × List Char) : Option α :=
  if result.2.isEmpty then some result.1 else none

def blankAfter (result : α × List Char) : Option α :=
  if (trimStart result.2).isEmpty then some result.1 else none

/-- The column form of a date. -/
def readDate (text : String) : Option Date := (dateParts false text.toList).bind whole

/-- The column form of a time of day. -/
def readTime (text : String) : Option Time := (timeParts false text.toList).bind whole

/-- The column form of a date with a time of day. -/
def readDateTime (text : String) : Option DateTime := do
  let (date, rest) ← dateParts false text.toList
  let (time, rest) ← timeParts false (trimStart rest)
  if rest.isEmpty then some ⟨date, time⟩ else none

/-- The serialized form of a date; blanks around its parts do not matter. -/
def readSerializedDate (text : String) : Option Date := (dateParts true text.toList).bind blankAfter

/-- The serialized form of a time, which may stop after the minutes. -/
def readSerializedTime (text : String) : Option Time :=
  match (timeParts true text.toList).bind blankAfter with
  | some time => some time
  | none => do
    let (hour, rest) ← twoDigits text.toList
    let (_, rest) ← mark true ':' rest
    let (minute, rest) ← twoDigits rest
    if (trimStart rest).isEmpty then Time.make? hour minute 0 0 else none

def readSerializedDateTime (text : String) : Option DateTime := do
  let (date, rest) ← dateParts true text.toList
  let (_, rest) ← mark true 'T' rest
  let (time, rest) ← timeParts true rest
  if (trimStart rest).isEmpty then some ⟨date, time⟩ else none

def isSeparator (char : Char) : Bool := char = ':' || Text.isBlank char

/-- Minutes that a clock with a signed offset runs ahead of universal time. -/
def signedOffset : Step Int
  | sign :: rest =>
    let negative := sign = '-' || sign = Char.ofNat 0x2212
    if !negative && sign ≠ '+' then none
    else match rest with
      | h :: i :: rest =>
        if !(isDigit h && isDigit i) then none
        else match rest.dropWhile isSeparator with
          | m :: n :: rest =>
            if !(isDigit m && isDigit n) || 5 < digitValue m then none
            else
              let hours := digitValue h * 10 + digitValue i
              let minutes : Nat := hours * 60 + digitValue m * 10 + digitValue n
              if 24 * 60 ≤ minutes then none
              else some (if negative then -(minutes : Int) else minutes, rest)
          | _ => none
      | _ => none
  | [] => none

/-- An offset is a `Z`, the name of universal time or a signed clock difference. -/
def offset : Step Int := fun text =>
  if (text.take 3).map Char.toUpper = ['U', 'T', 'C'] then some (0, text.drop 3)
  else match text with
    | 'Z' :: rest => some (0, rest)
    | 'z' :: rest => some (0, rest)
    | rest => signedOffset rest

/-- The serialized form of an instant: any offset, converted to universal time. -/
def readTimestamp (text : String) : Option Timestamp := do
  let (date, rest) ← dateParts true text.toList
  let rest ← match rest with
    | 't' :: rest => some rest
    | 'T' :: rest => some rest
    | ' ' :: rest => some rest
    | _ => none
  let (time, rest) ← timeParts true rest
  let (minutes, rest) ← offset (trimStart rest)
  let utc ← DateTime.minusMinutes? ⟨date, time⟩ minutes
  if (trimStart rest).isEmpty then some ⟨utc⟩ else none

end FluentSql.Calendar
