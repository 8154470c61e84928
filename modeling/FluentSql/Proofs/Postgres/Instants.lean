import FluentSql.Proofs.Calendar.Elapsed
import FluentSql.Proofs.Postgres.Integers

/-! Moments as parameters and as result columns. With or without a zone, a moment is the same count
of microseconds on the wire, and either type of a program reads it back. -/
namespace FluentSql.Postgres

/-- The two ways in which a value holds a moment. -/
inductive MomentForm where
  | zoneless
  | universal

def MomentForm.value (moment : DateTime) : MomentForm → Value
  | .zoneless => .dateTime moment
  | .universal => .timestamp ⟨moment⟩

/-- The types of a server for moments. -/
inductive MomentType where
  | zoneless
  | zoned

def MomentType.wire : MomentType → WireType
  | .zoneless => .timestamp
  | .zoned => .timestamptz

/-- The form in which a column of a type comes back. -/
def MomentType.form : MomentType → MomentForm
  | .zoneless => .zoneless
  | .zoned => .universal

/-- Both types of a program take both forms as the same moment. -/
theorem fromValue_moment (moment : DateTime) (form : MomentForm) :
    fromValue (form.value moment) = .ok moment ∧
      fromValue (form.value moment) = .ok (Timestamp.mk moment) := by
  cases form <;> exact ⟨rfl, rfl⟩

theorem encode_moment (moment : DateTime) (form : MomentForm) (type : MomentType) :
    encode type.wire (form.value moment) = sent (dateTimeBytes moment) := by
  cases form <;> cases type <;> rfl

theorem decode?_moment (type : MomentType) (bytes : Bytes) :
    decode? type.wire bytes = (readDateTime? bytes).map type.form.value := by
  cases type <;> rfl

variable {moment : DateTime}

theorem dateTimeBytes_eq (exact : moment.InMicroseconds) :
    dateTimeBytes moment = integerBytes 8 moment.elapsedMicroseconds := by
  rw [dateTimeBytes, exact.nanosecondsSinceEpoch_eq, Int.mul_tdiv_cancel_left _ (by decide)]

theorem fits_elapsedMicroseconds (moment : DateTime) : Fits 8 moment.elapsedMicroseconds :=
  (IntegerType.eight.fits_iff _).mpr moment.elapsedMicroseconds_bounds

/-- A moment comes back in the form of the column. -/
theorem decodeCell_moment (exact : moment.InMicroseconds) (type : MomentType) (index : Nat)
    (name : String) :
    decodeCell index (name, type.wire) (some (dateTimeBytes moment)) =
      .ok (type.form.value moment) := by
  have readable : type.wire.isReadable = true := by
    cases type <;> rfl
  have read : readDateTime? (dateTimeBytes moment) = some moment := by
    rw [readDateTime?, dateTimeBytes_eq exact,
      readInteger?_integerBytes (by decide) (fits_elapsedMicroseconds moment), Option.bind_some,
      exact.ofMicrosecondsSinceEpoch?_eq]
  have decoded : decode? type.wire (dateTimeBytes moment) = some (type.form.value moment) := by
    rw [decode?_moment, read, Option.map_some]
  simp [decodeCell, readable, decoded]

/-- Moments survive every path. Whether a moment is sent with or without a zone, to a parameter with
or without one, its bytes are the two's complement of the microseconds gone by since the start of
the year 2000, which eight bytes always hold. A column of that type with these bytes is the moment
again, read with or without a zone. -/
theorem moments_survive (exact : moment.InMicroseconds) (form : MomentForm) (type : MomentType) :
    IntegerType.eight.Holds moment.elapsedMicroseconds ∧
      ∃ bytes, encode type.wire (form.value moment) = .ok (some bytes) ∧
        TwosComplement 8 moment.elapsedMicroseconds bytes ∧
        ∀ index name, ∃ value,
          decodeCell index (name, type.wire) (some bytes) = .ok value ∧
            fromValue value = .ok moment ∧ fromValue value = .ok (Timestamp.mk moment) := by
  refine ⟨moment.elapsedMicroseconds_bounds, dateTimeBytes moment, encode_moment moment form type,
    ?_, ?_⟩
  · rw [dateTimeBytes_eq exact]
    exact twosComplement_integerBytes 8 _
  · intro index name
    exact ⟨_, decodeCell_moment exact type index name, fromValue_moment moment type.form⟩

/-- Two minutes and a microsecond before the year 2000. -/
def beforeMidnight : DateTime := ⟨⟨1999, 12, 31, by decide⟩, ⟨23, 57, 59, 999999000, by decide⟩⟩

/-- A moment before the start of the count, sent without a zone to a parameter with one. -/
theorem moments_survive_beforeMidnight :
    beforeMidnight.InMicroseconds ∧ beforeMidnight.elapsedMicroseconds = -120000001 ∧
      encode .timestamptz (.dateTime beforeMidnight) =
        .ok (some [255, 255, 255, 255, 248, 216, 241, 255]) ∧
      ∃ value, decodeCell 0 ("ended_at", .timestamptz)
          (some [255, 255, 255, 255, 248, 216, 241, 255]) = .ok value ∧
        fromValue value = .ok beforeMidnight := by
  have exact : beforeMidnight.InMicroseconds := ⟨by decide, by decide⟩
  have encoded : encode .timestamptz (.dateTime beforeMidnight) =
      .ok (some [255, 255, 255, 255, 248, 216, 241, 255]) := by decide
  obtain ⟨-, bytes, written, -, back⟩ := moments_survive exact .zoneless .zoned
  obtain rfl := Option.some.inj (Except.ok.inj (written.symm.trans encoded))
  obtain ⟨value, decoded, read, -⟩ := back 0 "ended_at"
  exact ⟨exact, by decide, encoded, value, decoded, read⟩

end FluentSql.Postgres
