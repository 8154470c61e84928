import FluentSql.Calendar.Reader
import FluentSql.Proofs.Calendar.DayNumber
import FluentSql.Proofs.Text.Reading
import FluentSql.Proofs.Value.Texts

/-! Dates, times and instants come back from their texts. Each step of a reader takes in what its
part was written as, and leaves what stands behind it. -/
namespace FluentSql.Calendar
open Text (Stops isDigit readDigits trimStart padded)

variable {rest : List Char}

/-- A run of digits is read whole where it fills the width, or ends inside it. -/
theorem digits_append {width : Nat} {run : List Char} (some : run ≠ [])
    (all : ∀ char ∈ run, isDigit char = true)
    (ends : run.length = width ∨ run.length ≤ width ∧ Stops isDigit rest) :
    digits width (run ++ rest) = .some (readDigits run, rest) := by
  have stop : Stops isDigit (rest.take (width - run.length)) := by
    rcases ends with full | ⟨-, stop⟩
    · rw [full, Nat.sub_self, List.take_zero]
      exact Text.stops_nil _
    · exact Text.stops_take stop _
  have short : run.length ≤ width := ends.elim le_of_eq And.left
  have found : ((run ++ rest).take width).takeWhile isDigit = run := by
    rw [List.take_append, List.take_of_length_le short]
    exact (Text.run_append all stop).1
  have present : run.isEmpty = false := by simpa using some
  unfold digits
  simp only [found, present, Bool.false_eq_true, if_false, List.drop_left]

theorem digits_padded {width count value : Nat}
    (ends : (padded count value).toList.length = width ∨
      (padded count value).toList.length ≤ width ∧ Stops isDigit rest) :
    digits width ((padded count value).toList ++ rest) = some (value, rest) := by
  rw [digits_append (Text.padded_ne_nil _ _) (fun _ => Text.isDigit_of_mem_padded) ends,
    Text.readDigits_padded]

/-- Two digits are two digits, whatever follows. -/
theorem twoDigits_append {value : Nat} (small : value < 100) :
    twoDigits ((padded 2 value).toList ++ rest) = some (value, rest) := by
  rw [twoDigits, Text.trimStart_digits (Text.padded_ne_nil _ _) fun _ => Text.isDigit_of_mem_padded]
  exact digits_padded (.inl (Date.two_digits small))

theorem mark_cons {char : Char} (solid : Text.isBlank char = false) (blanks : Bool) :
    mark blanks char (char :: rest) = some ((), rest) := by
  have kept : (if blanks then trimStart (char :: rest) else char :: rest) = char :: rest := by
    rw [Text.trimStart_of_solid solid, ite_self]
  rw [mark, kept, literal, if_pos rfl]

theorem signedYear_of_isDigit {first : Char} (digit : isDigit first = true) (others : List Char) :
    signedYear (first :: others) =
      (digits 4 (first :: others)).map fun result => ((result.1 : Int), result.2) := by
  unfold signedYear
  rw [Text.trimStart_of_solid (Text.isBlank_of_isDigit digit)]
  split
  · rename_i sign
    exact absurd (List.cons.inj sign).1 (Text.ne_of_isDigit digit _ rfl)
  · rename_i sign
    exact absurd (List.cons.inj sign).1 (Text.ne_of_isDigit digit _ rfl)
  · rfl

theorem signedYear_minus (rest : List Char) : signedYear ('-' :: rest) =
    (digits rest.length rest).map fun result => (-(result.1 : Int), result.2) := rfl

theorem signedYear_plus (rest : List Char) : signedYear ('+' :: rest) =
    (digits rest.length rest).map fun result => ((result.1 : Int), result.2) := rfl

/-- A year comes back where no digit follows it: four digits without a sign, or any number of them
behind one. -/
theorem signedYear_append (year : Int) (stop : Stops isDigit rest) :
    signedYear ((Date.yearText year).toList ++ rest) = some (year, rest) := by
  by_cases plain : 0 ≤ year ∧ year ≤ 9999
  · have small : year.toNat < 10 ^ 4 := by omega
    have read : digits 4 ((padded 4 year.toNat).toList ++ rest) = some (year.toNat, rest) :=
      digits_padded (.inl (Text.length_padded small (by decide)))
    obtain ⟨first, others, shape⟩ := List.exists_cons_of_ne_nil (Text.padded_ne_nil 4 year.toNat)
    have digit : isDigit first = true := Text.isDigit_of_mem_padded (shape ▸ List.mem_cons_self)
    rw [Date.yearText, if_pos plain, shape, List.cons_append, signedYear_of_isDigit digit,
      ← List.cons_append, ← shape, read, Option.map_some, Int.toNat_of_nonneg plain.1]
  · have within : (padded 4 year.natAbs).toList.length ≤
        ((padded 4 year.natAbs).toList ++ rest).length :=
      List.length_append ▸ Nat.le_add_right _ rest.length
    rw [Date.signed_of_yearText plain, List.cons_append]
    split_ifs with below
    · have value : -(year.natAbs : Int) = year := by omega
      rw [signedYear_minus, digits_padded (.inr ⟨within, stop⟩), Option.map_some, value]
    · have value : (year.natAbs : Int) = year := by omega
      rw [signedYear_plus, digits_padded (.inr ⟨within, stop⟩), Option.map_some, value]

theorem toList_dateText (date : Date) : date.text.toList ++ rest =
    (Date.yearText date.year).toList ++ '-' :: ((padded 2 date.month).toList ++
      '-' :: ((padded 2 date.day).toList ++ rest)) := by
  simp [Date.text]

theorem make?_self (date : Date) : Date.make? date.year date.month date.day = some date :=
  dif_pos date.valid

/-- A date comes back from its text, whatever follows. -/
theorem dateParts_append (date : Date) (blanks : Bool) :
    dateParts blanks (date.text.toList ++ rest) = some (date, rest) := by
  have stop (rest : List Char) : Stops isDigit ('-' :: rest) := Text.stops_cons rfl rest
  have mark (rest : List Char) : mark blanks '-' ('-' :: rest) = some ((), rest) :=
    mark_cons rfl blanks
  simp only [dateParts, toList_dateText, signedYear_append date.year (stop _), mark,
    twoDigits_append date.month_lt, twoDigits_append date.day_lt, make?_self,
    Option.bind_eq_bind, Option.bind_some, Option.pure_def]

theorem timeOf?_self {time : Time} (regular : Time.Regular time.second time.nanosecond) :
    timeOf? time.hour time.minute time.shownSecond (time.nanosecond % 1000000000) = some time := by
  obtain ⟨-, -, seconds, nanoseconds⟩ := time.valid
  have kept : Time.make? time.hour time.minute time.second time.nanosecond = some time := by
    rw [Time.make?, if_pos regular, Time.moment?, dif_pos time.valid]
  unfold Time.Regular at regular
  unfold timeOf? Time.shownSecond
  split_ifs with leap
  · have second : time.second = 59 := by omega
    have nanosecond : time.nanosecond % 1000000000 + 1000000000 = time.nanosecond := by omega
    rw [nanosecond, ← second, kept]
  · have second : time.second + time.nanosecond / 1000000000 = time.second := by omega
    have nanosecond : time.nanosecond % 1000000000 = time.nanosecond := by omega
    rw [second, nanosecond, kept]

/-- A fraction is written with a point and up to nine digits, or not at all. -/
theorem fractionText_shape {nanosecond : Nat} (small : nanosecond < 1000000000) :
    nanosecond = 0 ∧ (Time.fractionText nanosecond).toList = [] ∨
      ∃ run, (Time.fractionText nanosecond).toList = '.' :: run ∧ run ≠ [] ∧ run.length ≤ 9 ∧
        ∀ char ∈ run, isDigit char = true := by
  have shape {width value : Nat} (short : value < 10 ^ width) (wide : 0 < width)
      (narrow : width ≤ 9) : ∃ run, ("." ++ padded width value).toList = '.' :: run ∧ run ≠ [] ∧
        run.length ≤ 9 ∧ ∀ char ∈ run, isDigit char = true :=
    ⟨(padded width value).toList, by simp, Text.padded_ne_nil width value,
      (Text.length_padded short wide).trans_le narrow, fun _ => Text.isDigit_of_mem_padded⟩
  unfold Time.fractionText
  split_ifs with none milli micro
  · exact .inl ⟨none, rfl⟩
  · exact .inr (shape (by omega) (by decide) (by decide))
  · exact .inr (shape (by omega) (by decide) (by decide))
  · exact .inr (shape small (by decide) (by decide))

/-- The nanoseconds come back where the text does not go on as a fraction. -/
theorem fraction_append {nanosecond : Nat} (small : nanosecond < 1000000000)
    (stop : Stops isDigit rest) (pointless : rest.head? ≠ some '.') :
    fraction ((Time.fractionText nanosecond).toList ++ rest) = some (nanosecond, rest) := by
  have read := Time.read_fractionText small
  rcases fractionText_shape small with ⟨rfl, none⟩ | ⟨run, shape, some, short, all⟩
  · rw [none, List.nil_append]
    unfold fraction
    split
    · exact absurd rfl pointless
    · rfl
  · obtain ⟨found, -⟩ := Text.run_append all stop
    have present : run.isEmpty = false := by simpa using some
    rw [shape, List.drop_one, List.tail_cons, List.length_cons] at read
    rw [shape, List.cons_append, fraction]
    simp only [found, present, Bool.false_eq_true, if_false, List.take_of_length_le short,
      List.drop_left]
    rw [Nat.add_sub_add_right 9 1] at read
    exact congrArg (fun nanosecond => Option.some (nanosecond, rest)) read

theorem toList_timeText (time : Time) : time.text.toList ++ rest =
    (padded 2 time.hour).toList ++ ':' :: ((padded 2 time.minute).toList ++
      ':' :: ((padded 2 time.shownSecond).toList ++
        ((Time.fractionText (time.nanosecond % 1000000000)).toList ++ rest))) := by
  simp [Time.text, Time.clockText]

/-- A time comes back from its text, where the text does not go on as its fraction. -/
theorem timeParts_append {time : Time} (regular : Time.Regular time.second time.nanosecond)
    (blanks : Bool) (stop : Stops isDigit rest) (pointless : rest.head? ≠ some '.') :
    timeParts blanks (time.text.toList ++ rest) = some (time, rest) := by
  obtain ⟨hours, minutes, seconds, nanoseconds⟩ := time.valid
  have mark (rest : List Char) : mark blanks ':' (':' :: rest) = some ((), rest) :=
    mark_cons rfl blanks
  have shown : time.shownSecond < 100 := by
    unfold Time.shownSecond
    omega
  have fraction := fraction_append (Nat.mod_lt time.nanosecond (by decide)) stop pointless
  simp only [timeParts, toList_timeText, mark, twoDigits_append (hours.trans (by decide)),
    twoDigits_append (minutes.trans (by decide)), twoDigits_append shown, fraction,
    timeOf?_self regular, Option.bind_eq_bind, Option.bind_some, Option.pure_def]

theorem timeParts_append_nil {time : Time} (regular : Time.Regular time.second time.nanosecond)
    (blanks : Bool) : timeParts blanks time.text.toList = some (time, []) := by
  have read := timeParts_append regular blanks (Text.stops_nil _) (by decide)
  rwa [List.append_nil] at read

theorem readSerializedDate_text (date : Date) : readSerializedDate date.text = some date := by
  have read : dateParts true (date.text.toList ++ []) = some (date, []) :=
    dateParts_append date true
  rw [List.append_nil] at read
  rw [readSerializedDate, read]
  rfl

theorem readSerializedTime_text {time : Time}
    (regular : Time.Regular time.second time.nanosecond) :
    readSerializedTime time.text = some time := by
  rw [readSerializedTime, timeParts_append_nil regular]
  rfl

theorem readSerializedDateTime_text {moment : DateTime}
    (regular : Time.Regular moment.time.second moment.time.nanosecond) :
    readSerializedDateTime moment.text = some moment := by
  have chars : moment.text.toList = moment.date.text.toList ++ 'T' :: moment.time.text.toList := by
    simp [DateTime.text]
  have mark (rest : List Char) : mark true 'T' ('T' :: rest) = some ((), rest) :=
    mark_cons rfl true
  rw [readSerializedDateTime, chars, dateParts_append]
  simp only [Option.bind_eq_bind, Option.bind_some, mark, timeParts_append_nil regular]
  rfl

/-- An instant comes back from its text, which names offset zero. -/
theorem readTimestamp_text {instant : Timestamp}
    (regular : Time.Regular instant.utc.time.second instant.utc.time.nanosecond) :
    readTimestamp instant.text = some instant := by
  have chars : instant.text.toList = instant.utc.date.text.toList ++
      'T' :: (instant.utc.time.text.toList ++ ['Z']) := by
    simp [Timestamp.text, DateTime.text]
  have zulu : offset (trimStart ['Z']) = some (0, []) := by decide
  have time : timeParts true (instant.utc.time.text.toList ++ ['Z']) = some (_, ['Z']) :=
    timeParts_append regular true (Text.stops_cons rfl []) (by decide)
  rw [readTimestamp, chars, dateParts_append]
  simp only [Option.bind_eq_bind, Option.bind_some, time, zulu, DateTime.minusMinutes?_zero]
  rfl

end FluentSql.Calendar
