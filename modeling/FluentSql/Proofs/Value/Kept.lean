import FluentSql.Proofs.Json.Reading
import FluentSql.Proofs.Value.Texts
import FluentSql.Value.Serialized

/-! Serialized values are JSON objects. They tell everything apart but numbers that are not
finite, and leap seconds where the calendar has none. -/
namespace FluentSql.Value

/-- The content of a value as JSON; only null has none. -/
def inner? : Value → Option Json
  | .null => none
  | .bool value => some (.bool value)
  | .int value => some (.int value.toInt)
  | .float value => some (.float value)
  | .decimal value => some (.string value.text)
  | .text value => some (.string value)
  | .bytes value => some (.array (value.map fun byte => .int byte.toNat))
  | .date value => some (.string value.text)
  | .time value => some (.string value.text)
  | .dateTime value => some (.string value.text)
  | .timestamp value => some (.string value.text)
  | .json value => some value
  | .uuid value => some (.string value.text)

/-- A value with its tag, as JSON. -/
def asJson (value : Value) : Json :=
  .object (("type", .string value.tag) :: value.inner?.toList.map fun json => ("value", json))

theorem byteList_eq (bytes : List UInt8) :
    byteList bytes = Json.printItems (bytes.map fun byte => .int byte.toNat) := by
  induction bytes with
  | nil => rfl
  | cons byte rest ih =>
    cases rest with
    | nil => rfl
    | cons next rest =>
      rw [byteList, ih]
      rfl

theorem content_eq (value : Value) : value.content = value.inner?.map Json.print := by
  cases value with
  | bytes bytes =>
    rw [content, byteList_eq]
    rfl
  | _ => rfl

def tags : List String :=
  ["null", "bool", "int", "float", "decimal", "text", "bytes", "date", "time", "date_time",
    "timestamp", "json", "uuid"]

theorem tag_mem_tags (value : Value) : value.tag ∈ tags := by
  cases value <;> simp [tag, tags]

/-- Nothing in a tag is escaped. -/
theorem quote_tag (value : Value) : Json.quote value.tag = "\"" ++ value.tag ++ "\"" := by
  have plain : ∀ tag ∈ tags, Json.quote tag = "\"" ++ tag ++ "\"" := by decide
  exact plain value.tag value.tag_mem_tags

theorem serialize_eq (value : Value) : value.serialize = value.asJson.print := by
  have key : Json.quote "type" = "\"type\"" := by decide
  have name : Json.quote "value" = "\"value\"" := by decide
  unfold serialize asJson
  rw [content_eq]
  cases value.inner? with
  | none =>
    rw [← String.toList_inj]
    simp [Json.print, Json.printMembers, key, quote_tag]
  | some json =>
    rw [← String.toList_inj]
    simp [Json.print, Json.printMembers, key, name, quote_tag]

theorem serializeItems_eq (values : List Value) :
    serializeItems values = Json.printItems (values.map asJson) := by
  induction values with
  | nil => rfl
  | cons value rest ih =>
    cases rest with
    | nil => exact serialize_eq value
    | cons next rest =>
      rw [serializeItems, ih, serialize_eq]
      rfl

theorem serializeList_eq (values : List Value) :
    serializeList values = (Json.array (values.map asJson)).print := by
  rw [serializeList, serializeItems_eq, Json.print]

/-- What the serialized text keeps of a value. -/
def kept : Value → Value
  | .float value => .float value.kept
  | .time value => .time value.kept
  | .dateTime value => .dateTime value.kept
  | .timestamp value => .timestamp value.kept
  | .json value => .json value.kept
  | other => other

theorem serialize_kept (value : Value) : value.kept.serialize = value.serialize := by
  cases value with
  | float value =>
    have number : (Json.float value.kept).print = (Json.float value).print := by
      rw [← String.toList_inj, Json.toList_printFloat, Json.toList_printFloat,
        Double.numeral?_kept]
    rw [kept, serialize, serialize, content_eq, content_eq]
    simp only [inner?, Option.map_some, number, tag]
  | time value => simp only [kept, serialize, content, tag, Time.text_kept]
  | dateTime value => simp only [kept, serialize, content, tag, DateTime.text_kept]
  | timestamp value => simp only [kept, serialize, content, tag, Timestamp.text_kept]
  | json value =>
    rw [kept, serialize, serialize, content_eq, content_eq]
    simp only [inner?, Option.map_some, Json.print_kept, tag]
  | _ => rfl

theorem keptItems_bytes (bytes : List UInt8) :
    Json.keptItems (bytes.map fun byte => .int byte.toNat) =
      bytes.map fun byte => .int byte.toNat := by
  induction bytes with
  | nil => rfl
  | cons byte rest ih =>
    rw [List.map_cons, Json.keptItems, ih]
    rfl

/-- The tag and the content are left of a value's JSON. -/
theorem tag_of_asJson {first second : Value} (same : first.asJson.kept = second.asJson.kept) :
    first.tag = second.tag ∧ first.inner?.map Json.kept = second.inner?.map Json.kept := by
  unfold asJson at same
  injection same with members
  obtain ⟨tag, content⟩ := List.cons.inj members
  refine ⟨Json.string.inj (Prod.mk.inj tag).2, ?_⟩
  cases one : first.inner? with
  | none =>
    cases other : second.inner? with
    | none => rfl
    | some json =>
      rw [one, other] at content
      cases content
  | some json =>
    cases other : second.inner? with
    | none =>
      rw [one, other] at content
      cases content
    | some json' =>
      rw [one, other] at content
      have equal := (Prod.mk.inj (List.cons.inj content).1).2
      exact congrArg some equal

/-- Values with the same left of their JSON are of one variant, with the same left of them. -/
theorem kept_of_asJson {first second : Value} (same : first.asJson.kept = second.asJson.kept) :
    first.kept = second.kept := by
  obtain ⟨tags, inner⟩ := tag_of_asJson same
  cases first
  case null =>
    cases second
    case null => rfl
    all_goals exact absurd tags (by simp [tag])
  case bool flag =>
    cases second
    case bool other => rw [Json.bool.inj (Option.some.inj inner)]
    all_goals exact absurd tags (by simp [tag])
  case int value =>
    cases second
    case int other => rw [Int64.toInt_inj.mp (Json.int.inj (Option.some.inj inner))]
    all_goals exact absurd tags (by simp [tag])
  case float value =>
    cases second
    case float other =>
      have numerals := Json.numeral?_of_kept (Option.some.inj inner)
      exact congrArg Value.float ((Double.numeral?_eq_iff value other).mp numerals)
    all_goals exact absurd tags (by simp [tag])
  case decimal value =>
    cases second
    case decimal other =>
      rw [Decimal.text_injective (Json.string.inj (Option.some.inj inner))]
    all_goals exact absurd tags (by simp [tag])
  case text value =>
    cases second
    case text other => rw [Json.string.inj (Option.some.inj inner)]
    all_goals exact absurd tags (by simp [tag])
  case bytes value =>
    cases second
    case bytes other =>
      have items := Json.array.inj (Option.some.inj inner)
      rw [keptItems_bytes, keptItems_bytes] at items
      have byte : Function.Injective fun byte : UInt8 => Json.int byte.toNat := by
        intro one two equal
        exact UInt8.toNat_inj.mp (Int.ofNat_inj.mp (Json.int.inj equal))
      rw [List.map_injective_iff.mpr byte items]
    all_goals exact absurd tags (by simp [tag])
  case date value =>
    cases second
    case date other => rw [Date.text_injective (Json.string.inj (Option.some.inj inner))]
    all_goals exact absurd tags (by simp [tag])
  case time value =>
    cases second
    case time other =>
      have texts := Json.string.inj (Option.some.inj inner)
      exact congrArg Value.time ((Time.text_eq_iff value other).mp texts)
    all_goals exact absurd tags (by simp [tag])
  case dateTime value =>
    cases second
    case dateTime other =>
      have texts := Json.string.inj (Option.some.inj inner)
      exact congrArg Value.dateTime ((DateTime.text_eq_iff value other).mp texts)
    all_goals exact absurd tags (by simp [tag])
  case timestamp value =>
    cases second
    case timestamp other =>
      have texts := Json.string.inj (Option.some.inj inner)
      exact congrArg Value.timestamp ((Timestamp.text_eq_iff value other).mp texts)
    all_goals exact absurd tags (by simp [tag])
  case json value =>
    cases second
    case json other => exact congrArg Value.json (Option.some.inj inner)
    all_goals exact absurd tags (by simp [tag])
  case uuid value =>
    cases second
    case uuid other => rw [Uuid.text_injective (Json.string.inj (Option.some.inj inner))]
    all_goals exact absurd tags (by simp [tag])

theorem map_kept_of_asJson : ∀ {first second : List Value},
    Json.keptItems (first.map asJson) = Json.keptItems (second.map asJson) →
      first.map kept = second.map kept := by
  intro first
  induction first with
  | nil =>
    intro second same
    cases second with
    | nil => rfl
    | cons value rest => cases same
  | cons value rest ih =>
    intro second same
    cases second with
    | nil => cases same
    | cons other others =>
      obtain ⟨head, tail⟩ := List.cons.inj same
      rw [List.map_cons, List.map_cons, kept_of_asJson head, ih tail]

theorem serializeItems_kept (values : List Value) :
    serializeItems (values.map kept) = serializeItems values := by
  induction values with
  | nil => rfl
  | cons value rest ih =>
    cases rest with
    | nil => exact serialize_kept value
    | cons next rest =>
      rw [List.map_cons, List.map_cons, serializeItems, serializeItems, serialize_kept,
        ← List.map_cons, ih]

/-- Two lists of values are serialized alike exactly when the same is left of their values, one by
one. -/
theorem serializeList_eq_iff (first second : List Value) :
    serializeList first = serializeList second ↔ first.map kept = second.map kept := by
  constructor
  · intro same
    rw [serializeList_eq, serializeList_eq] at same
    exact map_kept_of_asJson (Json.array.inj ((Json.print_eq_iff _ _).mp same))
  · intro same
    rw [serializeList, ← serializeItems_kept, same, serializeItems_kept, serializeList]

end FluentSql.Value
