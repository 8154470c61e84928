import FluentSql.Number.Written
import FluentSql.Proofs.Json.Numerals
import FluentSql.Proofs.Number.Shortest

/-! Integers and double precision numbers as the JSON numbers that they are written as. -/
namespace FluentSql.Json
open Text (isDigit readDigits decimalDigits)

namespace Numeral
open Number (Layout Scientific)

def ofInt : Int → Numeral
  | .ofNat value => ⟨false, decimalDigits value, none, none⟩
  | .negSucc value => ⟨true, decimalDigits (value + 1), none, none⟩

theorem text_ofInt (value : Int) : (ofInt value).text = (Text.intText value).toList := by
  cases value with
  | ofNat value =>
    simp [ofInt, text, unsigned, fractionText, exponentText, Text.intText, Text.natText]
  | negSucc value =>
    simp [ofInt, text, unsigned, fractionText, exponentText, Text.intText, Text.natText]

theorem lead_decimalDigits (value : Nat) (zero : (decimalDigits value).head? = some '0') :
    decimalDigits value = ['0'] := by
  rcases Nat.eq_zero_or_pos value with rfl | positive
  · rfl
  · exact absurd zero (Text.head?_decimalDigits positive)

theorem written_ofInt (value : Int) : (ofInt value).Written := by
  cases value with
  | ofNat value => exact ⟨.decimalDigits _, lead_decimalDigits _, nofun, nofun⟩
  | negSucc value => exact ⟨.decimalDigits _, lead_decimalDigits _, nofun, nofun⟩

theorem ofInt_injective {first second : Int} (same : ofInt first = ofInt second) :
    first = second := by
  have texts := congrArg text same
  rw [text_ofInt, text_ofInt] at texts
  exact Text.intText_injective (String.toList_inj.mp texts)

/-- The number that a shortest decimal is written as: with a point where that is short, otherwise
with an exponent. -/
def ofScientific (negative : Bool) (value : Scientific) : Numeral :=
  let digits := decimalDigits value.digits
  let point : Int := digits.length + value.exponent
  if -5 ≤ point - 1 ∧ point - 1 ≤ 15 then
    if 0 ≤ value.exponent then
      ⟨negative, digits ++ List.replicate value.exponent.toNat '0', some ['0'], none⟩
    else if 0 < point then
      ⟨negative, digits.take point.toNat, some (digits.drop point.toNat), none⟩
    else ⟨negative, ['0'], some (List.replicate (-point).toNat '0' ++ digits), none⟩
  else
    ⟨negative, digits.take 1, if digits.length = 1 then none else some (digits.drop 1),
      some (point - 1 < 0, decimalDigits (point - 1).natAbs)⟩

section Scientific

variable (negative : Bool) (value : Scientific)

theorem toList_intText (value : Int) : (Text.intText value).toList =
    (if value < 0 then ['-'] else []) ++ decimalDigits value.natAbs := by
  cases value with
  | ofNat value =>
    have positive : ¬ Int.ofNat value < 0 := Int.not_lt.mpr (Int.natCast_nonneg value)
    rw [if_neg positive, Text.intText, Text.natText, String.toList_ofList]
    rfl
  | negSucc value =>
    have digits : (Text.natText (value + 1)).toList = decimalDigits (value + 1) :=
      String.toList_ofList
    rw [if_pos (Int.negSucc_lt_zero value), Text.intText, String.toList_append, digits]
    rfl

theorem unsigned_exponent (first : Char) (rest : List Char) (leading : Int) :
    unsigned ⟨negative, [first], if rest = [] then none else some rest,
      some (leading < 0, decimalDigits leading.natAbs)⟩ =
    (Number.exponentText (first :: rest) leading).toList := by
  unfold Number.exponentText
  have mark : exponentText (some (decide (leading < 0), decimalDigits leading.natAbs)) =
      (if leading < 0 then "e" else "e+").toList ++ (Text.intText leading).toList := by
    rw [toList_intText]
    by_cases below : leading < 0
    · simp [exponentText, below]
    · simp [exponentText, below]
  cases rest with
  | nil => simp [unsigned, fractionText, mark]
  | cons second rest => simp [unsigned, fractionText, mark]

theorem unsigned_ofScientific : (ofScientific negative value).unsigned =
    (Number.magnitudeText Layout.serialized value).toList := by
  obtain ⟨first, rest, digits⟩ := List.exists_cons_of_ne_nil
    (Text.decimalDigits_ne_nil value.digits)
  unfold ofScientific Number.magnitudeText Layout.serialized
  dsimp only
  split
  · unfold Number.positionalText
    dsimp only
    split
    · simp [unsigned, fractionText, exponentText, Number.zeros]
    split
    · simp [unsigned, fractionText, exponentText]
    · simp [unsigned, fractionText, exponentText, Number.zeros]
  · rw [digits, ← unsigned_exponent negative]
    simp

/-- Every shortest decimal is written as the grammar asks. -/
theorem written_ofScientific (positive : 0 < value.digits) :
    (ofScientific negative value).Written := by
  have digits := Digits.decimalDigits value.digits
  have lead := Text.head?_decimalDigits positive
  unfold ofScientific
  dsimp only
  split
  · split
    · refine ⟨digits.append fun _ => isDigit_of_mem_zeros, ?_, ?_, nofun⟩
      · intro zero
        rw [List.head?_append_of_ne_nil _ digits.some] at zero
        exact absurd zero lead
      · rintro _ ⟨⟩
        exact .zero
    split
    · refine ⟨digits.take (by omega), ?_, ?_, nofun⟩
      · intro zero
        rw [List.head?_take, if_neg (by omega)] at zero
        exact absurd zero lead
      · rintro _ ⟨⟩
        exact digits.drop (by omega)
    · refine ⟨.zero, fun _ => rfl, ?_, nofun⟩
      rintro _ ⟨⟩
      refine ⟨List.append_ne_nil_of_right_ne_nil _ digits.some, ?_⟩
      intro char member
      exact (List.mem_append.mp member).elim isDigit_of_mem_zeros (digits.all char)
  · refine ⟨digits.take (by decide), ?_, ?_, ?_⟩
    · intro zero
      rw [List.head?_take, if_neg (by decide)] at zero
      exact absurd zero lead
    · intro fraction present
      have more := List.length_pos_iff.mpr digits.some
      dsimp only at present
      split at present
      · cases present
      · cases present
        exact digits.drop (by omega)
    · rintro _ ⟨⟩
      exact .decimalDigits _

theorem readDigits_leading (count : Nat) (digits : List Char) :
    readDigits (List.replicate count '0' ++ digits) = readDigits digits := by
  rw [Text.readDigits_append, Text.readDigits_zeros, Nat.zero_mul, Nat.zero_add]

theorem places_exponent (leading : Int) :
    places (some (leading < 0, decimalDigits leading.natAbs)) = leading := by
  rw [places, Text.readDigits_decimalDigits]
  by_cases below : leading < 0
  · rw [decide_eq_true below, if_pos rfl]
    omega
  · rw [decide_eq_false below, if_neg Bool.false_ne_true]
    omega

/-- The digits stand for the number that they were made of. -/
theorem worth_ofScientific : (ofScientific negative value).scientific.worth = value.worth := by
  have read := Text.readDigits_decimalDigits value.digits
  have some := List.length_pos_iff.mpr (Text.decimalDigits_ne_nil value.digits)
  have equal {numeral : Numeral} (digits : numeral.scientific.digits = value.digits)
      (exponent : numeral.scientific.exponent = value.exponent) :
      numeral.scientific.worth = value.worth := by
    rw [Scientific.worth, digits, exponent, ← Scientific.worth]
  unfold ofScientific
  dsimp only
  split
  · split
    · rename_i large
      obtain ⟨exponent, same⟩ := Int.eq_ofNat_of_zero_le large
      have zero : readDigits ['0'] = 0 := rfl
      simp only [Scientific.worth, scientific, Option.getD_some, places, same, Int.toNat_natCast,
        Text.readDigits_append, Text.readDigits_zeros, read, zero, List.length_replicate,
        List.length_singleton, Nat.add_zero, pow_one, Nat.cast_mul, Nat.cast_pow, zpow_natCast]
      have tenth : (10 : ℚ) ^ ((0 : Int) - (1 : Nat)) = 1 / 10 := by norm_num
      rw [tenth]
      ring
    split
    · refine equal ?_ ?_
      · simp only [scientific, Option.getD_some, List.take_append_drop, read]
      · simp only [scientific, Option.getD_some, places, List.length_drop]
        omega
    · refine equal ?_ ?_
      · simp only [scientific, Option.getD_some, List.singleton_append]
        rw [← List.cons_append, ← List.replicate_succ, readDigits_leading, read]
      · simp only [scientific, Option.getD_some, places, List.length_append, List.length_replicate]
        omega
  · have fraction : (if (decimalDigits value.digits).length = 1 then none
        else Option.some ((decimalDigits value.digits).drop 1)).getD [] =
          (decimalDigits value.digits).drop 1 := by
      split
      · rename_i single
        exact (List.drop_eq_nil_of_le single.le).symm
      · rfl
    refine equal ?_ ?_
    · simp only [scientific, fraction, List.take_append_drop, read]
    · simp only [scientific, fraction, places_exponent, List.length_drop]
      omega

/-- No integer is written as a shortest decimal is. -/
theorem fractional_ofScientific : (ofScientific negative value).fraction ≠ none ∨
    (ofScientific negative value).exponent ≠ none := by
  unfold ofScientific
  dsimp only
  split
  · refine Or.inl ?_
    split
    · nofun
    split
    · nofun
    · nofun
  · exact Or.inr nofun

theorem negative_ofScientific : (ofScientific negative value).negative = negative := by
  unfold ofScientific
  dsimp only
  split
  · split
    · rfl
    split
    · rfl
    · rfl
  · rfl

end Scientific

end Numeral

end FluentSql.Json

namespace FluentSql.Double
open Json (Numeral)
open Number

/-- A finite number's word is made of its sign, its exponent and its significand. -/
theorem word_of_finite {value : Double} {negative : Bool} {significand : Nat} {exponent : Int}
    (read : value.reading = .finite negative significand exponent) :
    value.word.toNat = (if negative then 2 ^ 63 else 0) +
      ((exponent + 1074).toNat * 2 ^ 52 + significand) := by
  have infinity : Format.double.infinityWord = 2047 * 2 ^ 52 := rfl
  have bits : twoTo Format.double.fractionBits = 2 ^ 52 := rfl
  have sign : Format.double.signWord = 2 ^ 63 := rfl
  have wide := value.word.toNat_lt
  have top : (if decide (2 ^ 63 ≤ value.word.toNat) = true then 2 ^ 63 else 0) =
      value.word.toNat / 2 ^ 63 * 2 ^ 63 := by
    rcases Nat.lt_or_ge value.word.toNat (2 ^ 63) with low | high
    · rw [decide_eq_false (Nat.not_le.mpr low), if_neg Bool.false_ne_true]
      omega
    · rw [decide_eq_true high, if_pos rfl]
      omega
  unfold reading Format.read at read
  simp only [infinity, bits, sign, minExponent_double] at read
  split at read
  · cases read
  split at read
  · cases read
  split at read
  · cases read
    rw [top]
    omega
  · cases read
    rw [top]
    omega

theorem exponent_of_zero {value : Double} {negative : Bool} {exponent : Int}
    (read : value.reading = .finite negative 0 exponent) : exponent = -1074 := by
  have infinity : Format.double.infinityWord = 2047 * 2 ^ 52 := rfl
  have bits : twoTo Format.double.fractionBits = 2 ^ 52 := rfl
  unfold reading Format.read at read
  simp only [infinity, bits, minExponent_double] at read
  split at read
  · cases read
  split at read
  · cases read
  split at read
  · injection read with _ _ least
    exact least.symm
  · injection read with _ full _
    omega

theorem eq_of_finite {first second : Double} {negative : Bool} {significand : Nat} {exponent : Int}
    (read : first.reading = .finite negative significand exponent)
    (also : second.reading = .finite negative significand exponent) : first = second := by
  have words : first.word.toNat = second.word.toNat :=
    (word_of_finite read).trans (word_of_finite also).symm
  cases first
  cases second
  exact congrArg Double.mk (UInt64.toNat_inj.mp words)

/-- The number that a double precision number is written as. Only finite ones are. -/
def numeral? (value : Double) : Option Numeral :=
  match value.reading with
  | .finite negative 0 _ => some ⟨negative, ['0'], some ['0'], none⟩
  | .finite negative significand exponent =>
    some (.ofScientific negative (Format.double.shortest .even significand exponent))
  | _ => none

theorem toList_text (value : Double) : (value.text Layout.serialized).toList =
    match value.numeral? with
    | some numeral => numeral.text
    | none => "null".toList := by
  unfold text numeral?
  cases reading : value.reading with
  | nan => rfl
  | infinite negative => rfl
  | finite negative significand exponent =>
    cases significand with
    | zero =>
      cases negative
      · simp [Layout.serialized, Numeral.text, Numeral.unsigned, Numeral.fractionText,
          Numeral.exponentText]
      · simp [Layout.serialized, Numeral.text, Numeral.unsigned, Numeral.fractionText,
          Numeral.exponentText]
    | succ significand =>
      have unsigned := Numeral.unsigned_ofScientific negative
        (Format.double.shortest .even (significand + 1) exponent)
      have sign := Numeral.negative_ofScientific negative
        (Format.double.shortest .even (significand + 1) exponent)
      simp only [Numeral.text, unsigned, sign]
      cases negative
      · rfl
      · simp [Layout.serialized]

/-- What a number that is written comes from: zero, or the shortest decimal of a magnitude. -/
theorem numeral?_cases {value : Double} {numeral : Numeral}
    (written : value.numeral? = some numeral) :
    ∃ negative significand exponent, value.reading = .finite negative significand exponent ∧
      ((significand = 0 ∧ exponent = -1074 ∧ numeral = ⟨negative, ['0'], some ['0'], none⟩) ∨
        Canonical significand exponent ∧
          numeral =
            .ofScientific negative (Format.double.shortest .even significand exponent)) := by
  unfold numeral? at written
  split at written
  · rename_i negative exponent read
    cases written
    exact ⟨negative, 0, exponent, read, .inl ⟨rfl, exponent_of_zero read, rfl⟩⟩
  · rename_i negative significand exponent nonzero read
    cases written
    exact ⟨negative, significand, exponent, read,
      .inr ⟨.of_read read (Nat.pos_of_ne_zero nonzero), rfl⟩⟩
  · cases written

theorem written_numeral? {value : Double} {numeral : Numeral}
    (written : value.numeral? = some numeral) : numeral.Written := by
  obtain ⟨negative, significand, exponent, _, ⟨_, _, rfl⟩ | ⟨canonical, rfl⟩⟩ :=
    numeral?_cases written
  · refine ⟨.zero, fun _ => rfl, ?_, nofun⟩
    rintro _ ⟨⟩
    exact .zero
  · refine Numeral.written_ofScientific _ _ (Nat.pos_of_ne_zero fun none => ?_)
    have positive := worth_shortest_pos canonical .even
    rw [Scientific.worth, none] at positive
    simp at positive

/-- A double precision number is never written as an integer is. -/
theorem fractional_numeral? {value : Double} {numeral : Numeral}
    (written : value.numeral? = some numeral) :
    numeral.fraction ≠ none ∨ numeral.exponent ≠ none := by
  obtain ⟨negative, significand, exponent, _, ⟨_, _, rfl⟩ | ⟨_, rfl⟩⟩ := numeral?_cases written
  · exact .inl nofun
  · exact Numeral.fractional_ofScientific _ _

theorem worth_zero (negative : Bool) :
    (Numeral.scientific ⟨negative, ['0'], some ['0'], none⟩).worth = 0 := by
  have digits : (Numeral.scientific ⟨negative, ['0'], some ['0'], none⟩).digits = 0 := rfl
  rw [Scientific.worth, digits, Nat.cast_zero, zero_mul]

theorem zero_ne_shortest {significand : Nat} {exponent : Int}
    (canonical : Canonical significand exponent) (negative sign : Bool) :
    (⟨negative, ['0'], some ['0'], none⟩ : Numeral) ≠
      .ofScientific sign (Format.double.shortest .even significand exponent) := by
  intro same
  have worth := congrArg (fun numeral => numeral.scientific.worth) same
  simp only [worth_zero, Numeral.worth_ofScientific] at worth
  exact (worth_shortest_pos canonical .even).ne worth

/-- The numeral of a number tells the number. -/
theorem eq_of_numeral? {first second : Double} {numeral : Numeral}
    (written : first.numeral? = some numeral) (also : second.numeral? = some numeral) :
    first = second := by
  obtain ⟨negative, significand, exponent, read, shape⟩ := numeral?_cases written
  obtain ⟨sign, other, place, read', shape'⟩ := numeral?_cases also
  rcases shape with ⟨rfl, rfl, zero⟩ | ⟨canonical, shortest⟩
  · rcases shape' with ⟨rfl, rfl, zero'⟩ | ⟨canonical', shortest'⟩
    · obtain rfl : negative = sign := congrArg Numeral.negative (zero.symm.trans zero')
      exact eq_of_finite read read'
    · exact absurd (zero.symm.trans shortest') (zero_ne_shortest canonical' _ _)
  · rcases shape' with ⟨rfl, rfl, zero'⟩ | ⟨canonical', shortest'⟩
    · exact absurd (zero'.symm.trans shortest) (zero_ne_shortest canonical _ _)
    · have same := shortest.symm.trans shortest'
      have signs := congrArg Numeral.negative same
      have worths := congrArg (fun numeral => numeral.scientific.worth) same
      simp only [Numeral.negative_ofScientific, Numeral.worth_ofScientific] at signs worths
      obtain ⟨rfl, rfl⟩ := eq_of_worth_shortest canonical canonical' .even worths
      subst signs
      exact eq_of_finite read read'

/-- What is left of a number in JSON text: all that are not finite become the same. -/
def kept (value : Double) : Double :=
  match value.reading with
  | .finite _ _ _ => value
  | _ => ofReading .nan

theorem numeral?_nan : (ofReading .nan).numeral? = none := by
  decide

theorem kept_of_numeral? (value : Double) : value.kept =
    match value.numeral? with
    | some _ => value
    | none => ofReading .nan := by
  unfold kept numeral?
  cases value.reading with
  | nan => rfl
  | infinite negative => rfl
  | finite negative significand exponent =>
    cases significand with
    | zero => rfl
    | succ significand => rfl

theorem numeral?_kept (value : Double) : value.kept.numeral? = value.numeral? := by
  rw [kept_of_numeral?]
  cases written : value.numeral? with
  | none => exact numeral?_nan
  | some numeral => exact written

/-- Two numbers are written alike exactly when the same is left of both. -/
theorem numeral?_eq_iff (first second : Double) :
    first.numeral? = second.numeral? ↔ first.kept = second.kept := by
  constructor
  · intro same
    cases written : first.numeral? with
    | none =>
      rw [kept_of_numeral?, kept_of_numeral? second, ← same, written]
    | some numeral => rw [eq_of_numeral? written (same ▸ written)]
  · intro same
    rw [← numeral?_kept, same, numeral?_kept]

end FluentSql.Double
