import FluentSql.Text.Digits
import FluentSql.Text.Hex

/-! Internet addresses in text. -/
namespace FluentSql.Postgres.Address
open Text (isDigit readDigits hexValue?)

/-- A number up to 255 in at most three digits, without a zero in front of others. -/
def isOctet (text : List Char) : Bool :=
  !text.isEmpty && text.length ≤ 3 && text.all isDigit && readDigits text ≤ 255 &&
    (text.length = 1 || text.head? ≠ some '0')

/-- What stands between the separators, one piece more than there are separators. -/
def pieces (separator : Char) : List Char → List (List Char)
  | [] => [[]]
  | char :: rest =>
    if char = separator then [] :: pieces separator rest
    else match pieces separator rest with
      | [] => [[char]]
      | first :: others => (char :: first) :: others

/-- Four numbers with points between them. -/
def isDotted (text : List Char) : Bool :=
  let parts := pieces '.' text
  parts.length = 4 && parts.all isOctet

/-- One to four hexadecimal digits. -/
def isGroup (text : List Char) : Bool :=
  !text.isEmpty && text.length ≤ 4 && text.all fun char => (hexValue? char).isSome

/-- The count of 16-bit groups that a list of pieces has, the last two of them perhaps dotted. -/
def groupCount? : List (List Char) → Option Nat
  | [] => some 0
  | [last] => if isGroup last then some 1 else if isDotted last then some 2 else none
  | piece :: rest => if isGroup piece then (groupCount? rest).map (· + 1) else none

/-- What stands before and after the first two colons in a row. -/
def splitGap : List Char → Option (List Char × List Char)
  | [] => none
  | ':' :: ':' :: rest => some ([], rest)
  | char :: rest => (splitGap rest).map fun parts => (char :: parts.1, parts.2)

def side? (text : List Char) : Option Nat :=
  if text.isEmpty then some 0 else groupCount? (pieces ':' text)

/-- Eight groups, or fewer with two colons where zeros are left out. -/
def isColoned (text : List Char) : Bool :=
  match splitGap text with
  | none => groupCount? (pieces ':' text) = some 8
  | some (before, after) =>
    !(before.contains '.') && match side? before, side? after with
      | some front, some back => front + back ≤ 7
      | _, _ => false

def isAddress (text : String) : Bool := isDotted text.toList || isColoned text.toList

end FluentSql.Postgres.Address
