import FluentSql.Json.Reader
import FluentSql.Proofs.Entries
import FluentSql.Proofs.Json.Reading
import FluentSql.Proofs.Text.Reading

/-! JSON values come back from their texts: integers of 64 bits with or without a sign, objects with
their members in key order, and nothing nested deeper than the reader goes. -/
namespace FluentSql.Json
open Text (isDigit digitValue decimalDigits pushDigits)

namespace Numeral

/-- Digits are all taken in while the number that they make fits a word. -/
theorem accumulate_digits {significand : Nat} {run : List Char}
    (fits : pushDigits significand run < 18446744073709551616) :
    accumulate significand run = (pushDigits significand run, []) := by
  induction run generalizing significand with
  | nil => rfl
  | cons digit rest ih =>
    rw [accumulate, if_pos (Text.push_lt_of_pushDigits fits), ih fits]
    rfl

theorem accumulate_decimalDigits {value : Nat} (fits : value < 18446744073709551616) :
    accumulate 0 (decimalDigits value) = (value, []) := by
  have read : pushDigits 0 (decimalDigits value) = value := Text.readDigits_decimalDigits value
  rw [accumulate_digits (read.trans_lt fits), read]

/-- An integer keeps its kind and its value where a 64-bit word has room for it. -/
theorem amount?_ofInt {value : Int} (low : -9223372036854775808 ≤ value)
    (high : value < 18446744073709551616) : (ofInt value).amount? = some (.int value) := by
  cases value with
  | ofNat value =>
    have fits : value < 18446744073709551616 := Int.ofNat_lt.mp high
    unfold amount? ofInt
    simp only [accumulate_decimalDigits fits]
    rfl
  | negSucc value =>
    have fits : value + 1 ≤ 9223372036854775808 := by omega
    unfold amount? ofInt
    simp only [accumulate_decimalDigits (fits.trans_lt (by decide))]
    rw [if_pos trivial, if_neg (by omega)]
    rfl

end Numeral

mutual

/-- How many arrays and objects stand inside each other. -/
def nesting : Json → Nat
  | .null | .bool _ | .int _ | .float _ | .string _ => 0
  | .array items => nestingItems items + 1
  | .object members => nestingMembers members + 1

def nestingItems : List Json → Nat
  | [] => 0
  | item :: rest => max (nesting item) (nestingItems rest)

def nestingMembers : List (String × Json) → Nat
  | [] => 0
  | (_, value) :: rest => max (nesting value) (nestingMembers rest)

end

mutual

/-- A value with no double precision number in it, of which each integer fits a 64-bit word with or
without a sign, and each object has its members in key order. -/
def Exact : Json → Prop
  | .null | .bool _ | .string _ => True
  | .int value => -9223372036854775808 ≤ value ∧ value < 18446744073709551616
  | .float _ => False
  | .array items => ExactItems items
  | .object members => Entries.Sorted members ∧ ExactMembers members

def ExactItems : List Json → Prop
  | [] => True
  | item :: rest => Exact item ∧ ExactItems rest

def ExactMembers : List (String × Json) → Prop
  | [] => True
  | (_, value) :: rest => Exact value ∧ ExactMembers rest

end

mutual

/-- A value comes back from what its text is read as. -/
theorem ofSource_source : ∀ (json : Json) {depth : Nat}, json.Exact → json.nesting < depth →
    ofSource depth (source json) = some json
  | .null, _, _, _ | .bool _, _, _, _ | .string _, _, _, _ => rfl
  | .int value, _, exact, _ => by
    rw [Exact] at exact
    rw [source, ofSource, Numeral.amount?_ofInt exact.1 exact.2]
    rfl
  | .float _, _, exact, _ => by
    rw [Exact] at exact
    exact exact.elim
  | .array items, depth, exact, shallow => by
    rw [Exact] at exact
    rw [nesting] at shallow
    rw [source, ofSource, if_neg (by omega), ofItems_source items exact (by omega)]
    rfl
  | .object members, depth, exact, shallow => by
    rw [Exact] at exact
    rw [nesting] at shallow
    rw [source, ofSource, if_neg (by omega), ofPairs_source members exact.2 (by omega),
      Option.map_some, ofMembers, Entries.ofPairs_of_sorted exact.1]

theorem ofItems_source : ∀ (items : List Json) {depth : Nat}, ExactItems items →
    nestingItems items < depth → ofItems depth (sourceItems items) = some items
  | [], _, _, _ => rfl
  | item :: rest, depth, exact, shallow => by
    rw [ExactItems] at exact
    rw [nestingItems] at shallow
    rw [sourceItems, ofItems, ofSource_source item exact.1 (by omega),
      ofItems_source rest exact.2 (by omega)]

theorem ofPairs_source : ∀ (members : List (String × Json)) {depth : Nat}, ExactMembers members →
    nestingMembers members < depth → ofPairs depth (sourceMembers members) = some members
  | [], _, _, _ => rfl
  | (_, value) :: rest, depth, exact, shallow => by
    rw [ExactMembers] at exact
    rw [nestingMembers] at shallow
    have item := ofSource_source value exact.1 (show value.nesting < depth by omega)
    have others := ofPairs_source rest exact.2 (show nestingMembers rest < depth by omega)
    simp only [sourceMembers, ofPairs, item, others]

end

/-- The whole text of a value is read as what the value is written as. -/
theorem parse?_print (json : Json) : Source.parse? (print json).toList = some (source json) := by
  have read := (reads (2 * (print json).toList.length + 2)).value json [] (by omega)
    (Text.stops_nil _)
  rw [List.append_nil] at read
  rw [Source.parse?, read]
  rfl

end FluentSql.Json
