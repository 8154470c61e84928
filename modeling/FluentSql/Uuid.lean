import FluentSql.Number.Format
import FluentSql.Text.Hex

/-! Universally unique identifiers. -/
namespace FluentSql

structure Uuid where
  value : BitVec 128
  deriving DecidableEq, Inhabited

namespace Uuid

/-- Lower-case digits in groups of eight, four, four, four and twelve. -/
def text (uuid : Uuid) : String :=
  let digits := Text.hexDigits 32 uuid.value.toNat
  let group (start length : Nat) : List Char := (digits.drop start).take length
  String.ofList (group 0 8 ++ '-' :: group 8 4 ++ '-' :: group 12 4 ++ '-' :: group 16 4 ++
    '-' :: group 20 12)

def bytes (uuid : Uuid) : List UInt8 :=
  (List.range 16).map fun place => UInt8.ofNat (uuid.value.toNat / twoTo (8 * (15 - place)))

def ofBytes? (bytes : List UInt8) : Option Uuid :=
  if bytes.length = 16 then
    some ⟨BitVec.ofNat 128 (bytes.foldl (fun value byte => value * 256 + byte.toNat) 0)⟩
  else none

def ofDigits? (digits : List Char) : Option Uuid :=
  if digits.length = 32 then (Text.readHex digits).map fun value => ⟨BitVec.ofNat 128 value⟩
  else none

/-- The hyphens of a hyphenated text stand after 8, 13, 18 and 23 characters. -/
def ofHyphenated? (text : List Char) : Option Uuid :=
  let isHyphen (place : Nat) : Bool := text[place]? == some '-'
  if text.length = 36 && isHyphen 8 && isHyphen 13 && isHyphen 18 && isHyphen 23 then
    ofDigits? (text.filter (· ≠ '-'))
  else none

def urn : List Char := "urn:uuid:".toList

/-- Plain, hyphenated, braced or as a resource name; digits of either case. -/
def parse? (text : String) : Option Uuid :=
  let chars := text.toList
  if chars.length = 32 then ofDigits? chars
  else if chars.length = 38 then
    if chars.head? = some '\x7b' ∧ chars.getLast? = some '\x7d' then
      ofHyphenated? ((chars.drop 1).dropLast)
    else none
  else if chars.length = 45 then
    if (chars.take urn.length).map Char.toLower = urn then ofHyphenated? (chars.drop urn.length)
    else none
  else ofHyphenated? chars

end Uuid
end FluentSql
