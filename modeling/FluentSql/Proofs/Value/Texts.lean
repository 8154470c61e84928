import FluentSql.Proofs.Text.Digits
import FluentSql.Value.Basic

/-! Dates, times, decimals and identifiers are told apart by their texts. -/
namespace FluentSql
open Text (isDigit decimalDigits)

namespace Date

theorem two_digits {value : Nat} (small : value < 100) : (Text.padded 2 value).toList.length = 2 :=
  Text.length_padded small (by decide)

theorem month_lt (date : Date) : date.month < 100 := by
  have range := date.valid.2.1
  omega

theorem day_lt (date : Date) : date.day < 100 := by
  have last := date.valid.2.2.2
  have month : Calendar.daysInMonth date.year date.month ≤ 31 := by
    unfold Calendar.daysInMonth
    split_ifs <;> decide
  omega

theorem mem_yearText {year : Int} {char : Char} (member : char ∈ (yearText year).toList) :
    char = '-' ∨ char = '+' ∨ isDigit char = true := by
  unfold yearText at member
  split at member
  · exact .inr (.inr (Text.isDigit_of_mem_padded member))
  rw [String.toList_append] at member
  rcases List.mem_append.mp member with sign | digit
  · split at sign
    · exact .inl (List.mem_singleton.mp sign)
    · exact .inr (.inl (List.mem_singleton.mp sign))
  · exact .inr (.inr (Text.isDigit_of_mem_padded digit))

/-- A year outside the four digits shows its sign. -/
theorem signed_of_yearText {year : Int} (wide : ¬ (0 ≤ year ∧ year ≤ 9999)) :
    (yearText year).toList =
      (if year < 0 then '-' else '+') :: (Text.padded 4 year.natAbs).toList := by
  rw [yearText, if_neg wide, String.toList_append]
  split
  · rfl
  · rfl

theorem yearText_injective {first second : Int} (same : yearText first = yearText second) :
    first = second := by
  have chars := congrArg String.toList same
  have unsigned {year : Int} (plain : 0 ≤ year ∧ year ≤ 9999) {char : Char}
      (member : char ∈ (yearText year).toList) : isDigit char = true := by
    rw [yearText, if_pos plain] at member
    exact Text.isDigit_of_mem_padded member
  have sign {year : Int} (wide : ¬ (0 ≤ year ∧ year ≤ 9999)) :
      ∃ char ∈ (yearText year).toList, isDigit char = false := by
    rw [signed_of_yearText wide]
    refine ⟨_, List.mem_cons_self, ?_⟩
    split
    · rfl
    · rfl
  by_cases plain : 0 ≤ first ∧ first ≤ 9999
  · by_cases also : 0 ≤ second ∧ second ≤ 9999
    · rw [yearText, yearText, if_pos plain, if_pos also] at same
      have years := Text.padded_injective same
      omega
    · obtain ⟨char, member, signed⟩ := sign also
      rw [← same] at member
      exact absurd (unsigned plain member) (by rw [signed]; decide)
  · by_cases also : 0 ≤ second ∧ second ≤ 9999
    · obtain ⟨char, member, signed⟩ := sign plain
      rw [same] at member
      exact absurd (unsigned also member) (by rw [signed]; decide)
    · rw [signed_of_yearText plain, signed_of_yearText also] at chars
      obtain ⟨signs, digits⟩ := List.cons.inj chars
      have years := Text.padded_injective (String.toList_inj.mp digits)
      split at signs
      · split at signs
        · omega
        · cases signs
      · split at signs
        · cases signs
        · omega

theorem text_injective {first second : Date} (same : first.text = second.text) :
    first = second := by
  have chars := congrArg String.toList same
  simp only [text, String.toList_append] at chars
  obtain ⟨front, days⟩ := List.append_inj' chars
    ((two_digits first.day_lt).trans (two_digits second.day_lt).symm)
  obtain ⟨front, _⟩ := List.append_inj' front rfl
  obtain ⟨front, months⟩ := List.append_inj' front
    ((two_digits first.month_lt).trans (two_digits second.month_lt).symm)
  obtain ⟨years, _⟩ := List.append_inj' front rfl
  have year := yearText_injective (String.toList_inj.mp years)
  have month := Text.padded_injective (String.toList_inj.mp months)
  have day := Text.padded_injective (String.toList_inj.mp days)
  cases first
  cases second
  simp_all

end Date

namespace Time

/-- The nanoseconds that a fraction stands for, by its digits and their count. -/
theorem read_fractionText {nanosecond : Nat} (small : nanosecond < 1000000000) :
    Text.readDigits ((fractionText nanosecond).toList.drop 1) *
      10 ^ (10 - (fractionText nanosecond).toList.length) = nanosecond := by
  have read (width part : Nat) (fits : part < 10 ^ width) (wide : 0 < width) :
      Text.readDigits (("." ++ Text.padded width part).toList.drop 1) = part ∧
        ("." ++ Text.padded width part).toList.length = width + 1 := by
    have digits := Text.readDigits_padded width part
    have length := Text.length_padded fits wide
    rw [String.toList_append]
    constructor
    · exact digits
    · rw [List.length_append, length]
      exact Nat.add_comm 1 width
  unfold fractionText
  split
  · rename_i zero
    rw [zero]
    rfl
  split
  · obtain ⟨digits, length⟩ := read 3 (nanosecond / 1000000) (by omega) (by decide)
    rw [digits, length]
    omega
  split
  · obtain ⟨digits, length⟩ := read 6 (nanosecond / 1000) (by omega) (by decide)
    rw [digits, length]
    omega
  · obtain ⟨digits, length⟩ := read 9 nanosecond small (by decide)
    rw [digits, length]
    omega

/-- What its text keeps of a time: a leap second in another second than the last of a minute is
shown as the second after it. -/
def kept (time : Time) : Time :=
  if Regular time.second time.nanosecond then time
  else (moment? time.hour time.minute (time.second + 1) (time.nanosecond - 1000000000)).getD time

theorem kept_of_irregular {time : Time} (irregular : ¬ Regular time.second time.nanosecond) :
    ∃ valid, time.kept =
      ⟨time.hour, time.minute, time.second + 1, time.nanosecond - 1000000000, valid⟩ := by
  have valid : Calendar.IsMoment time.hour time.minute (time.second + 1)
      (time.nanosecond - 1000000000) := by
    obtain ⟨hour, minute, second, nanosecond⟩ := time.valid
    unfold Regular at irregular
    exact ⟨hour, minute, by omega, by omega⟩
  refine ⟨valid, ?_⟩
  rw [kept, if_neg irregular, moment?, dif_pos valid]
  rfl

theorem regular_kept (time : Time) : Regular time.kept.second time.kept.nanosecond := by
  by_cases regular : Regular time.second time.nanosecond
  · rw [kept, if_pos regular]
    exact regular
  · obtain ⟨_, kept⟩ := kept_of_irregular regular
    have bounded := time.valid.2.2.2
    rw [kept]
    intro leap
    dsimp only at leap
    omega

theorem text_kept (time : Time) : time.kept.text = time.text := by
  by_cases regular : Regular time.second time.nanosecond
  · rw [kept, if_pos regular]
  · obtain ⟨_, kept⟩ := kept_of_irregular regular
    have bounded := time.valid.2.2.2
    unfold Regular at regular
    have shown : time.second + 1 + (time.nanosecond - 1000000000) / 1000000000 =
        time.second + time.nanosecond / 1000000000 := by omega
    have fraction : (time.nanosecond - 1000000000) % 1000000000 =
        time.nanosecond % 1000000000 := by omega
    rw [kept, text, clockText, shownSecond, text, clockText, shownSecond]
    dsimp only
    rw [shown, fraction]

theorem eq_of_text {first second : Time} (regular : Regular first.second first.nanosecond)
    (also : Regular second.second second.nanosecond) (same : first.text = second.text) :
    first = second := by
  have chars := congrArg String.toList same
  simp only [text, clockText, String.toList_append] at chars
  have hours (time : Time) : (Text.padded 2 time.hour).toList.length = 2 :=
    Text.length_padded (time.valid.1.trans (by decide)) (by decide)
  have minutes (time : Time) : (Text.padded 2 time.minute).toList.length = 2 :=
    Text.length_padded (time.valid.2.1.trans (by decide)) (by decide)
  have seconds (time : Time) : (Text.padded 2 time.shownSecond).toList.length = 2 := by
    obtain ⟨_, _, clock, fraction⟩ := time.valid
    refine Text.length_padded ?_ (by decide)
    unfold shownSecond
    omega
  obtain ⟨clocks, fractions⟩ := List.append_inj chars (by simp [hours, minutes, seconds])
  obtain ⟨clocks, shown⟩ := List.append_inj' clocks ((seconds first).trans (seconds second).symm)
  obtain ⟨clocks, _⟩ := List.append_inj' clocks rfl
  obtain ⟨clocks, minute⟩ := List.append_inj' clocks ((minutes first).trans (minutes second).symm)
  obtain ⟨hour, _⟩ := List.append_inj' clocks rfl
  have fraction : first.nanosecond % 1000000000 = second.nanosecond % 1000000000 := by
    rw [← read_fractionText (Nat.mod_lt first.nanosecond (by decide)), fractions,
      read_fractionText (Nat.mod_lt second.nanosecond (by decide))]
  replace hour := Text.padded_injective (String.toList_inj.mp hour)
  replace minute := Text.padded_injective (String.toList_inj.mp minute)
  replace shown := Text.padded_injective (String.toList_inj.mp shown)
  -- sixty seconds are shown in leap seconds only, which follow second 59
  unfold shownSecond at shown
  unfold Regular at regular also
  obtain ⟨_, _, clock, bounded⟩ := first.valid
  obtain ⟨_, _, clock', bounded'⟩ := second.valid
  have second_eq : first.second = second.second := by omega
  have nanosecond : first.nanosecond = second.nanosecond := by omega
  cases first
  cases second
  simp_all

/-- Two times have one text exactly when the same is kept of both. -/
theorem text_eq_iff (first second : Time) :
    first.text = second.text ↔ first.kept = second.kept := by
  constructor
  · intro same
    rw [← text_kept first, ← text_kept second] at same
    exact eq_of_text first.regular_kept second.regular_kept same
  · intro same
    rw [← text_kept, same, text_kept]

end Time

theorem Date.ne_of_mem_text {date : Date} {char : Char} (member : char ∈ date.text.toList) :
    (char != 'T') = true := by
  have other (sign : char = '-' ∨ char = '+' ∨ isDigit char = true) : (char != 'T') = true := by
    rcases sign with rfl | rfl | digit
    · rfl
    · rfl
    · refine bne_iff_ne.mpr ?_
      rintro rfl
      cases digit
  rw [Date.text] at member
  simp only [String.toList_append, List.mem_append, or_assoc] at member
  rcases member with year | mark | month | mark | day
  · exact other (mem_yearText year)
  · exact other (.inl (List.mem_singleton.mp mark))
  · exact other (.inr (.inr (Text.isDigit_of_mem_padded month)))
  · exact other (.inl (List.mem_singleton.mp mark))
  · exact other (.inr (.inr (Text.isDigit_of_mem_padded day)))

def DateTime.kept (moment : DateTime) : DateTime := ⟨moment.date, moment.time.kept⟩

theorem DateTime.text_kept (moment : DateTime) : moment.kept.text = moment.text := by
  rw [text, text, kept, Time.text_kept]

theorem DateTime.text_eq_iff (first second : DateTime) :
    first.text = second.text ↔ first.kept = second.kept := by
  constructor
  · intro same
    have chars := congrArg String.toList same
    simp only [text, String.toList_append, List.append_assoc] at chars
    obtain ⟨dates, times⟩ := Text.split_unique (· != 'T')
      (fun _ => Date.ne_of_mem_text) (fun _ => Date.ne_of_mem_text)
      (Text.stops_cons rfl _) (Text.stops_cons rfl _) chars
    have date := Date.text_injective (String.toList_inj.mp dates)
    have time := (Time.text_eq_iff _ _).mp (String.toList_inj.mp (List.cons.inj times).2)
    rw [kept, date, time, kept]
  · intro same
    rw [← text_kept, same, text_kept]

def Timestamp.kept (instant : Timestamp) : Timestamp := ⟨instant.utc.kept⟩

theorem Timestamp.text_kept (instant : Timestamp) : instant.kept.text = instant.text := by
  rw [text, text, kept, DateTime.text_kept]

theorem Timestamp.text_eq_iff (first second : Timestamp) :
    first.text = second.text ↔ first.kept = second.kept := by
  constructor
  · intro same
    have chars := congrArg String.toList same
    simp only [text, String.toList_append] at chars
    have moments := (DateTime.text_eq_iff _ _).mp
      (String.toList_inj.mp (List.append_cancel_right chars))
    rw [kept, moments, kept]
  · intro same
    rw [← text_kept, same, text_kept]

namespace Decimal

/-- What stands behind the digits before the point. -/
def fraction (value : Decimal) : List Char :=
  if value.scale = 0 then []
  else '.' :: (Text.padded value.scale (value.mantissa % tenTo value.scale)).toList

theorem toList_text (value : Decimal) : value.text.toList =
    (if value.negative then ['-'] else []) ++
      (decimalDigits (value.mantissa / tenTo value.scale) ++ value.fraction) := by
  have sign : (if value.negative then "-" else "").toList =
      if value.negative then ['-'] else [] := by
    split
    · rfl
    · rfl
  unfold text fraction
  by_cases whole : value.scale = 0
  · simp [Text.natText, whole, sign]
  · simp [Text.natText, whole, sign]

theorem length_fraction (value : Decimal) : value.fraction.length =
    if value.scale = 0 then 0 else value.scale + 1 := by
  unfold fraction
  split
  · rfl
  · rename_i some
    have small : value.mantissa % tenTo value.scale < 10 ^ value.scale :=
      Nat.mod_lt _ (Nat.pow_pos (by decide))
    rw [List.length_cons, Text.length_padded small (Nat.pos_of_ne_zero some)]

theorem stops_fraction (value : Decimal) : Text.Stops isDigit value.fraction := by
  unfold fraction
  split
  · exact Text.stops_nil _
  · exact Text.stops_cons rfl _

/-- A minus sign is not the first digit of a number without one. -/
theorem minus_ne_digits (digits : Nat) (front back : List Char) :
    ['-'] ++ front ≠ [] ++ (decimalDigits digits ++ back) := by
  obtain ⟨first, rest, shape⟩ := List.exists_cons_of_ne_nil (Text.decimalDigits_ne_nil digits)
  have digit : isDigit first = true :=
    Text.isDigit_of_mem_decimalDigits (shape ▸ List.mem_cons_self)
  intro same
  rw [shape] at same
  rw [← (List.cons.inj same).1] at digit
  cases digit

theorem negative_of_text {first second : Decimal} (same : first.text = second.text) :
    first.negative = second.negative := by
  have chars := congrArg String.toList same
  rw [toList_text, toList_text] at chars
  cases negative : first.negative with
  | false =>
    cases other : second.negative with
    | false => rfl
    | true =>
      rw [negative, other] at chars
      exact absurd chars.symm (minus_ne_digits _ _ _)
  | true =>
    cases other : second.negative with
    | true => rfl
    | false =>
      rw [negative, other] at chars
      exact absurd chars (minus_ne_digits _ _ _)

theorem scale_of_fraction {first second : Decimal} (same : first.fraction = second.fraction) :
    first.scale = second.scale := by
  have lengths := congrArg List.length same
  rw [length_fraction, length_fraction] at lengths
  split at lengths
  · split at lengths
    · omega
    · omega
  · split at lengths
    · omega
    · omega

theorem remainder_of_fraction {first second : Decimal} (same : first.fraction = second.fraction) :
    first.mantissa % tenTo first.scale = second.mantissa % tenTo second.scale := by
  have scale := scale_of_fraction same
  unfold fraction at same
  rw [scale] at same ⊢
  split at same
  · rename_i whole
    rw [whole]
    simp [tenTo, Nat.mod_one]
  · exact Text.padded_injective (String.toList_inj.mp (List.cons.inj same).2)

theorem text_injective {first second : Decimal} (same : first.text = second.text) :
    first = second := by
  have negative := negative_of_text same
  have chars := congrArg String.toList same
  rw [toList_text, toList_text, negative] at chars
  obtain ⟨whole, fractions⟩ := Text.split_unique isDigit
    (fun _ => Text.isDigit_of_mem_decimalDigits) (fun _ => Text.isDigit_of_mem_decimalDigits)
    first.stops_fraction second.stops_fraction (List.append_cancel_left chars)
  have scale := scale_of_fraction fractions
  have mantissa : first.mantissa = second.mantissa := by
    rw [← Nat.div_add_mod first.mantissa (tenTo first.scale),
      Text.decimalDigits_injective whole, remainder_of_fraction fractions, scale, Nat.div_add_mod]
  cases first
  cases second
  simp_all

end Decimal

namespace Uuid

theorem ne_hyphen {count value : Nat} {char : Char}
    (member : char ∈ Text.hexDigits count value) : char ≠ '-' := by
  have other : ∀ digit < 16, Text.hexDigit digit ≠ '-' := by decide
  obtain ⟨digit, small, rfl⟩ := Text.mem_hexDigits member
  exact other digit small

/-- The digits are left when the hyphens are taken out. -/
theorem filter_text (uuid : Uuid) :
    uuid.text.toList.filter (· ≠ '-') = Text.hexDigits 32 uuid.value.toNat := by
  have group (start length : Nat) :
      (((Text.hexDigits 32 uuid.value.toNat).drop start).take length).filter (· ≠ '-') =
        ((Text.hexDigits 32 uuid.value.toNat).drop start).take length := by
    rw [List.filter_eq_self]
    intro char member
    exact decide_eq_true (ne_hyphen (List.mem_of_mem_drop (List.mem_of_mem_take member)))
  have length := Text.length_hexDigits 32 uuid.value.toNat
  unfold text
  simp only [String.toList_ofList, List.filter_append, List.filter_cons, group, ne_eq, not_true,
    decide_false, Bool.false_eq_true, if_false]
  rw [List.drop_zero, ← List.take_add, ← List.take_add, ← List.take_add, ← List.take_add]
  exact List.take_of_length_le length.le

theorem text_injective {first second : Uuid} (same : first.text = second.text) :
    first = second := by
  have digits : Text.hexDigits 32 first.value.toNat = Text.hexDigits 32 second.value.toNat := by
    rw [← filter_text, same, filter_text]
  have values := Text.hexDigits_injective (first.value.isLt.trans_eq (by decide))
    (second.value.isLt.trans_eq (by decide)) digits
  cases first
  cases second
  exact congrArg Uuid.mk (BitVec.eq_of_toNat_eq values)

end Uuid

end FluentSql
