import FluentSql.Proofs.Calendar.Reading
import FluentSql.Proofs.Json.Restored
import FluentSql.Proofs.Value.Kept
import FluentSql.Proofs.Value.Reading
import FluentSql.Value.Reader

/-! Values come back from their serialized texts. Not so double precision numbers, of which some
are written as null, nor what the calendar and JSON texts have no words for. -/
namespace FluentSql.Value
open Json (Source source)

/-- A value that its serialized text says all of. Only second 59 has a leap second after it, a zero
is read without a sign, and a JSON value stands one level deep in the text of its value. -/
def Restorable : Value → Prop
  | .float _ => False
  | .decimal value => value.negative = true → value.mantissa ≠ 0
  | .time value => Time.Regular value.second value.nanosecond
  | .dateTime value => Time.Regular value.time.second value.time.nanosecond
  | .timestamp value => Time.Regular value.utc.time.second value.utc.time.nanosecond
  | .json value => value.Exact ∧ value.nesting < Json.depthLimit - 1
  | .null | .bool _ | .int _ | .text _ | .bytes _ | .date _ | .uuid _ => True

/-- The variant that a value is of. -/
def variant : Value → Tag
  | .null => .null
  | .bool _ => .bool
  | .int _ => .int
  | .float _ => .float
  | .decimal _ => .decimal
  | .text _ => .text
  | .bytes _ => .bytes
  | .date _ => .date
  | .time _ => .time
  | .dateTime _ => .dateTime
  | .timestamp _ => .timestamp
  | .json _ => .json
  | .uuid _ => .uuid

theorem parse?_tag (value : Value) : Tag.parse? value.tag = some value.variant := by
  cases value <;> rfl

/-- The tag and the content are found in the object that a value is written as. -/
theorem ofSource?_asJson {value : Value} {json : Json} (inner : value.inner? = some json)
    (depth : Nat) :
    ofSource? depth (source value.asJson) = ofContent? (depth - 1) value.variant (source json) := by
  have members : source value.asJson =
      .object [(some "type", .string (some value.tag)), (some "value", source json)] := by
    rw [asJson, inner]
    rfl
  have tag : uniqueMember "type" [(some "type", .string (some value.tag)),
      (some "value", source json)] = some (some (.string (some value.tag))) := by
    simp [uniqueMember]
  have content : uniqueMember "value" [(some "type", .string (some value.tag)),
      (some "value", source json)] = some (some (source json)) := by
    simp [uniqueMember]
  rw [members, ofSource?, tag, content]
  simp [string?, parse?_tag]

theorem amount?_int {value : Int} (low : -9223372036854775808 ≤ value)
    (high : value < 18446744073709551616) : amount? (source (.int value)) = some (.int value) :=
  Json.Numeral.amount?_ofInt low high

theorem int64?_toInt (value : Int64) : int64? value.toInt = some value := by
  rw [int64?, if_pos ⟨value.le_toInt, value.toInt_lt⟩, Int64.ofInt_toInt]

theorem byte?_int (byte : UInt8) : byte? (source (.int byte.toNat)) = some byte := by
  have bound := byte.toNat_lt
  rw [byte?, amount?_int (by omega) (by omega)]
  dsimp only
  rw [if_pos (by omega), Int.toNat_natCast, UInt8.ofNat_toNat]

theorem mapM_byte? (bytes : List UInt8) :
    (Json.sourceItems (bytes.map fun byte => .int byte.toNat)).mapM byte? = some bytes := by
  induction bytes with
  | nil => rfl
  | cons byte rest ih =>
    rw [List.map_cons, Json.sourceItems, List.mapM_cons, byte?_int, ih]
    rfl

/-- What the content of a value is read as. -/
theorem ofContent?_inner {value : Value} (restorable : value.Restorable) {json : Json}
    (inner : value.inner? = some json) :
    ofContent? (Json.depthLimit - 1) value.variant (source json) = some value := by
  cases value with
  | null => cases inner
  | bool value =>
    cases inner
    rfl
  | int value =>
    cases inner
    have read := amount?_int value.le_toInt (value.toInt_lt.trans (by decide))
    simp only [variant, ofContent?, read, int64?_toInt, Option.map_some]
  | float value => exact restorable.elim
  | decimal value =>
    cases inner
    have read : Decimal.parse? value.text.toList = some value := Decimal.parse?_text restorable
    simp only [variant, source, ofContent?, decimal?, Option.bind_some, read, Option.map_some]
  | text value =>
    cases inner
    rfl
  | bytes value =>
    cases inner
    simp only [variant, source, ofContent?, mapM_byte?, Option.map_some]
  | date value =>
    cases inner
    simp only [variant, source, ofContent?, string?, Option.bind_some,
      Calendar.readSerializedDate_text, Option.map_some]
  | time value =>
    cases inner
    have read : Calendar.readSerializedTime value.text = some value :=
      Calendar.readSerializedTime_text restorable
    simp only [variant, source, ofContent?, string?, Option.bind_some, read, Option.map_some]
  | dateTime value =>
    cases inner
    have read : Calendar.readSerializedDateTime value.text = some value :=
      Calendar.readSerializedDateTime_text restorable
    simp only [variant, source, ofContent?, string?, Option.bind_some, read, Option.map_some]
  | timestamp value =>
    cases inner
    have read : Calendar.readTimestamp value.text = some value :=
      Calendar.readTimestamp_text restorable
    simp only [variant, source, ofContent?, string?, Option.bind_some, read, Option.map_some]
  | json value =>
    cases inner
    simp only [variant, ofContent?, Json.ofSource_source json restorable.1 restorable.2,
      Option.map_some]
  | uuid value =>
    cases inner
    simp only [variant, source, ofContent?, string?, Option.bind_some, Uuid.parse?_text,
      Option.map_some]

/-- Every value that its serialized text says all of comes back from it as it was: the same variant
with the same content, decimals with their scale. -/
theorem deserialize?_serialize {value : Value} (restorable : value.Restorable) :
    deserialize? value.serialize = some value := by
  rw [serialize_eq, deserialize?, Json.parse?_print, Option.bind_some]
  cases inner : value.inner? with
  | some json => rw [ofSource?_asJson inner, ofContent?_inner restorable inner]
  | none =>
    cases value with
    | null => rfl
    | _ => cases inner

/-- A nanosecond into a leap second before year zero, and both ends of the range of JSON integers in
a list under a key that is a quote. -/
theorem deserialize?_serialize_limits :
    let leap : Value := .timestamp
      ⟨⟨-1, 12, 31, by decide⟩, ⟨23, 59, 59, 1000000001, by decide⟩⟩
    let integers : Value := .json (.object [
      ("\"", .array [.int (-9223372036854775808), .int 18446744073709551615]),
      ("é", .string "\n")])
    (leap.Restorable ∧ deserialize? leap.serialize = some leap) ∧
      integers.Restorable ∧ deserialize? integers.serialize = some integers := by
  intro leap integers
  have second : leap.Restorable := fun _ => rfl
  have range : integers.Restorable := by
    have both : Json.ExactItems [.int (-9223372036854775808), .int 18446744073709551615] :=
      ⟨⟨by decide, by decide⟩, ⟨by decide, by decide⟩, trivial⟩
    exact ⟨⟨by decide, both, trivial, trivial⟩, by decide⟩
  exact ⟨⟨second, deserialize?_serialize second⟩, range, deserialize?_serialize range⟩

end FluentSql.Value
