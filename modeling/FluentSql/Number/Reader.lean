import FluentSql.Number.Double
import FluentSql.Text.Digits

/-! Double precision numbers read from text, rounded once. -/
namespace FluentSql.Number
open Text (isDigit readDigits readInt)

def lower (text : List Char) : List Char := text.map Char.toLower

/-- An exponent is a mark, an optional sign and at least one digit. -/
def readExponent : List Char → Option Int
  | [] => some 0
  | mark :: rest =>
    if mark = 'e' ∨ mark = 'E' then readInt rest else none

/-- Digits with at most one point and at least one digit, then perhaps an exponent. -/
def readMagnitude (negative : Bool) (text : List Char) : Option Double :=
  let whole := text.takeWhile isDigit
  let rest := text.dropWhile isDigit
  let (fraction, tail) := match rest with
    | '.' :: after => (after.takeWhile isDigit, after.dropWhile isDigit)
    | after => ([], after)
  if whole.isEmpty && fraction.isEmpty then none
  else (readExponent tail).map fun exponent =>
    Double.ofDecimal negative (readDigits (whole ++ fraction)) (exponent - fraction.length)

def readUnsigned (negative : Bool) (text : List Char) : Option Double :=
  let word := lower text
  if word = "inf".toList ∨ word = "infinity".toList then
    some (Double.ofReading (.infinite negative))
  else if word = "nan".toList then
    let nan := Double.ofReading .nan
    some (if negative then nan.neg else nan)
  else readMagnitude negative text

end FluentSql.Number

open FluentSql.Number in
/-- A decimal number, an infinity or a not-a-number, with an optional sign and no blanks. -/
def FluentSql.Double.parse? (text : List Char) : Option FluentSql.Double :=
  match text with
  | '-' :: rest => readUnsigned true rest
  | '+' :: rest => readUnsigned false rest
  | rest => readUnsigned false rest
