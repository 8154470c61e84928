import FluentSql.Postgres.Decode
import FluentSql.Postgres.Encode
import FluentSql.Proofs.Postgres.Wire
import FluentSql.Proofs.Text.Numeral

/-! Integer parameters. A number is sent to an integer type only as it is: one that the type has no
room for is refused, and a text goes as the number that it is a text of. -/
namespace FluentSql.Postgres

/-- The integer types of a server. -/
inductive IntegerType where
  | two
  | four
  | eight

/-- How many bytes a type has. -/
def IntegerType.width : IntegerType → Nat
  | .two => 2
  | .four => 4
  | .eight => 8

def IntegerType.wire : IntegerType → WireType
  | .two => .int2
  | .four => .int4
  | .eight => .int8

/-- The numbers of a type. -/
def IntegerType.Holds (type : IntegerType) (number : Int) : Prop :=
  -(2 : Int) ^ (8 * type.width - 1) ≤ number ∧ number < 2 ^ (8 * type.width - 1)

theorem IntegerType.width_pos (type : IntegerType) : 0 < type.width := by
  cases type <;> decide

theorem IntegerType.fits_iff (type : IntegerType) (number : Int) :
    Fits type.width number ↔ type.Holds number := by
  unfold Fits IntegerType.Holds twoTo
  rw [Nat.pow_eq, Nat.cast_pow]
  rfl

theorem encodeWidth_eq_ok_iff {width : Nat} {number : Int} {out : Option Bytes} :
    encodeWidth width number = .ok out ↔
      Fits width number ∧ out = some (integerBytes width number) := by
  unfold encodeWidth
  constructor
  · intro encoded
    split at encoded
    · rename_i fits
      cases encoded
      exact ⟨fits, rfl⟩
    · split at encoded <;> cases encoded
  · rintro ⟨fits, rfl⟩
    rw [if_pos fits]
    rfl

variable (type : IntegerType)

theorem encode_int (number : Int64) :
    encode type.wire (.int number) = encodeWidth type.width number.toInt := by
  cases type <;> rfl

theorem encode_text (text : String) : encode type.wire (.text text) =
    read (α := Int64) text fun number => encode type.wire (.int number) := by
  cases type <;> rfl

theorem decode?_integer (bytes : Bytes) : decode? type.wire bytes =
    (readInteger? type.width bytes).map fun value => .int (Int64.ofInt value) := by
  cases type <;> rfl

theorem read_eq_ok_iff [FromValue α] {text : String} {encode : α → Encoded} {out : Option Bytes} :
    read text encode = .ok out ↔
      ∃ value, fromValue (.text text) = .ok value ∧ encode value = .ok out := by
  unfold read
  constructor
  · intro encoded
    split at encoded
    · rename_i value accepted
      exact ⟨value, accepted, encoded⟩
    · cases encoded
  · rintro ⟨value, accepted, encoded⟩
    rw [accepted]
    exact encoded

theorem int64?_eq_some_iff {value : Int} {number : Int64} :
    Value.int64? value = some number ↔ value = number.toInt := by
  constructor
  · intro accepted
    unfold Value.int64? at accepted
    split at accepted
    · rename_i range
      cases accepted
      exact (Int64.toInt_ofInt_of_le range.1 range.2).symm
    · cases accepted
  · rintro rfl
    rw [Value.int64?, if_pos ⟨number.le_toInt, number.toInt_lt⟩, Int64.ofInt_toInt]

theorem orMismatch_eq_ok_iff {expected : String} {got : Value} {result : Option α} {value : α} :
    orMismatch expected got result = .ok value ↔ result = some value := by
  cases result <;> simp [orMismatch, mismatch]

/-- A text is accepted as an integer exactly if it is a text of one. -/
theorem fromValue_text_eq_ok_iff {text : String} {number : Int64} :
    fromValue (.text text) = .ok number ↔ Text.Numeral text.toList number.toInt := by
  change orMismatch "int" (.text text) ((Text.readInt text.toList).bind Value.int64?) = _ ↔ _
  rw [orMismatch_eq_ok_iff, Option.bind_eq_some_iff, ← Text.readInt_eq_some_iff]
  constructor
  · rintro ⟨value, read, accepted⟩
    rwa [← int64?_eq_some_iff.mp accepted]
  · intro read
    exact ⟨_, read, int64?_eq_some_iff.mpr rfl⟩

/-- A number that was sent comes back from a column of the same type. -/
theorem decodeCell_integerBytes {number : Int64} (fits : Fits type.width number.toInt)
    (index : Nat) (name : String) :
    decodeCell index (name, type.wire) (some (integerBytes type.width number.toInt)) =
      .ok (.int number) := by
  have readable : type.wire.isReadable = true := by
    cases type <;> rfl
  have decoded : decode? type.wire (integerBytes type.width number.toInt) =
      some (.int number) := by
    rw [decode?_integer, readInteger?_integerBytes type.width_pos fits, Option.map_some,
      Int64.ofInt_toInt]
  simp [decodeCell, readable, decoded]

/-- Nothing wraps around. A number is sent exactly if the type holds it, as its two's complement, which
a column of the type decodes to the number. A text is sent exactly if it is a text of such a number,
and in the same bytes. -/
theorem integers_never_wrap (number : Int64) :
    ((∃ out, encode type.wire (.int number) = .ok out) ↔ type.Holds number.toInt) ∧
      (∀ out, encode type.wire (.int number) = .ok out → ∃ bytes, out = some bytes ∧
        TwosComplement type.width number.toInt bytes ∧
        ∀ index name, decodeCell index (name, type.wire) (some bytes) = .ok (.int number)) ∧
      ∀ text out, encode type.wire (.text text) = .ok out ↔ ∃ number : Int64,
        Text.Numeral text.toList number.toInt ∧ encode type.wire (.int number) = .ok out := by
  refine ⟨?_, ?_, ?_⟩
  · rw [← type.fits_iff, encode_int]
    simp only [encodeWidth_eq_ok_iff, exists_and_left, exists_eq, and_true]
  · intro out encoded
    rw [encode_int, encodeWidth_eq_ok_iff] at encoded
    obtain ⟨fits, rfl⟩ := encoded
    exact ⟨_, rfl, twosComplement_integerBytes _ _, decodeCell_integerBytes type fits⟩
  · intro text out
    rw [encode_text, read_eq_ok_iff]
    simp only [fromValue_text_eq_ok_iff]

/-- The lowest number of two bytes, and a text of it with a zero in front. -/
theorem integers_never_wrap_lowest :
    encode .int2 (.int (-32768)) = .ok (some [128, 0]) ∧
      decodeCell 3 ("lowest", .int2) (some [128, 0]) = .ok (.int (-32768)) ∧
      encode .int2 (.text "-032768") = .ok (some [128, 0]) := by
  obtain ⟨-, sent, texts⟩ := integers_never_wrap .two (-32768)
  have encoded : encode .int2 (.int (-32768)) = .ok (some [128, 0]) := by decide
  obtain ⟨bytes, written, -, back⟩ := sent _ encoded
  obtain rfl := Option.some.inj written
  have numeral : Text.Numeral "-032768".toList (-32768) :=
    Text.readInt_eq_some_iff.mp (by decide)
  exact ⟨encoded, back 3 "lowest", (texts _ _).mpr ⟨-32768, numeral, encoded⟩⟩

end FluentSql.Postgres
