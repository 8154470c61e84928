import FluentSql.Number.Shortest
import Mathlib.Algebra.Order.Field.Rat
import Mathlib.Algebra.Order.Field.Power
import Mathlib.Tactic.Linarith
import Mathlib.Tactic.NormNum
import Mathlib.Tactic.Positivity
import Mathlib.Tactic.Ring

/-! The shortest decimal of a binary number lies among the reals that round to the number. -/
namespace FluentSql.Number

/-- The number that digits and an exponent stand for. -/
def Scientific.worth (value : Scientific) : ℚ := value.digits * 10 ^ value.exponent

/-- A point between the ends of an interval; the ends count where the interval is closed. -/
structure Interval.Holds (interval : Interval) (point : ℚ) : Prop where
  above : interval.low * 2 ^ interval.exponent ≤ point
  below : point ≤ interval.high * 2 ^ interval.exponent
  inner : interval.closed = false → interval.low * 2 ^ interval.exponent ≠ point ∧
    point ≠ interval.high * 2 ^ interval.exponent

section Scales

variable (binary decimal : Int) (count other : Nat)

theorem twoTo_pos (exponent : Nat) : 0 < twoTo exponent := Nat.pow_pos (by decide)

theorem tenTo_pos (exponent : Nat) : 0 < tenTo exponent := Nat.pow_pos (by decide)

theorem cast_pow_eq (base : ℚ) (nonzero : base ≠ 0) (exponent : Int) :
    base ^ exponent * base ^ (-exponent).toNat = base ^ exponent.toNat := by
  rw [← zpow_natCast, ← zpow_natCast, ← zpow_add₀ nonzero]
  congr 1
  omega

theorem scales_eq : ((scales binary decimal).1 : ℚ) * 10 ^ decimal =
    2 ^ binary * (scales binary decimal).2 := by
  have two := cast_pow_eq 2 (by norm_num) binary
  have ten := cast_pow_eq 10 (by norm_num) decimal
  have twos (exponent : Nat) : (twoTo exponent : ℚ) = 2 ^ exponent := by simp [twoTo]
  have tens (exponent : Nat) : (tenTo exponent : ℚ) = 10 ^ exponent := by simp [tenTo]
  simp only [scales, Nat.cast_mul, twos, tens]
  rw [← two, ← ten]
  ring

/-- Comparing with a point of the grid is comparing the integers that the scales make of both. -/
theorem scaled_le_iff : (count * (scales binary decimal).1 ≤ other * (scales binary decimal).2 ↔
      (count : ℚ) * 2 ^ binary ≤ other * 10 ^ decimal) ∧
    (other * (scales binary decimal).2 ≤ count * (scales binary decimal).1 ↔
      (other : ℚ) * 10 ^ decimal ≤ count * 2 ^ binary) := by
  have unit : (0 : ℚ) < (scales binary decimal).2 := by
    have positive := Nat.mul_pos (twoTo_pos (-binary).toNat) (tenTo_pos decimal.toNat)
    exact_mod_cast positive
  have place : (0 : ℚ) < 10 ^ decimal := by positivity
  have own : ((count * (scales binary decimal).1 : Nat) : ℚ) * 10 ^ decimal =
      count * 2 ^ binary * (scales binary decimal).2 := by
    rw [Nat.cast_mul, mul_assoc, scales_eq, mul_assoc]
  have grid : ((other * (scales binary decimal).2 : Nat) : ℚ) * 10 ^ decimal =
      other * 10 ^ decimal * (scales binary decimal).2 := by
    rw [Nat.cast_mul, mul_right_comm]
  constructor
  · rw [← Nat.cast_le (α := ℚ), ← mul_le_mul_iff_of_pos_right place, own, grid,
      mul_le_mul_iff_of_pos_right unit]
  · rw [← Nat.cast_le (α := ℚ), ← mul_le_mul_iff_of_pos_right place, own, grid,
      mul_le_mul_iff_of_pos_right unit]

end Scales

namespace Interval

/-- Whether a point of the grid is inside, as the search decides it. -/
def meets (interval : Interval) (decimal : Int) (count : Nat) : Bool :=
  let point := count * (scales interval.exponent decimal).2
  let low := interval.low * (scales interval.exponent decimal).1
  let high := interval.high * (scales interval.exponent decimal).1
  if interval.closed then low ≤ point && point ≤ high else low < point && point < high

theorem holds_of_meets {interval : Interval} {decimal : Int} {count : Nat}
    (inside : interval.meets decimal count = true) :
    interval.Holds (Scientific.worth ⟨count, decimal⟩) := by
  have low := scaled_le_iff interval.exponent decimal interval.low count
  have high := scaled_le_iff interval.exponent decimal interval.high count
  unfold meets at inside
  cases closed : interval.closed with
  | true =>
    simp only [closed, if_true, Bool.and_eq_true, decide_eq_true_eq] at inside
    exact ⟨low.1.mp inside.1, high.2.mp inside.2, fun isOpen => by
      rw [closed] at isOpen
      cases isOpen⟩
  | false =>
    simp only [closed, Bool.false_eq_true, if_false, Bool.and_eq_true, decide_eq_true_eq] at inside
    have above : ¬ _ := fun reaches => absurd (low.2.mpr reaches) (not_le.mpr inside.1)
    have below : ¬ _ := fun reaches => absurd (high.1.mpr reaches) (not_le.mpr inside.2)
    have lower := not_le.mp above
    have upper := not_le.mp below
    exact ⟨lower.le, upper.le, fun _ => ⟨lower.ne, upper.ne⟩⟩

/-- The last point of the grid that is not past the center. -/
def before (interval : Interval) (decimal : Int) : Nat :=
  interval.center * (scales interval.exponent decimal).1 / (scales interval.exponent decimal).2

/-- A grid gives one of the center's two neighbours, wherever one of them is inside. -/
theorem onGrid?_eq (interval : Interval) (tie : Tie) (decimal : Int) :
    ∃ nearer, (nearer = interval.before decimal ∨ nearer = interval.before decimal + 1) ∧
      interval.onGrid? tie decimal =
        match interval.meets decimal (interval.before decimal),
          interval.meets decimal (interval.before decimal + 1) with
        | true, true => some nearer
        | true, false => some (interval.before decimal)
        | false, true => some (interval.before decimal + 1)
        | false, false => none := by
  refine ⟨_, ?_, rfl⟩
  cases tie
  case even =>
    dsimp only
    split_ifs
    · exact Or.inl rfl
    · exact Or.inr rfl
    · exact Or.inl rfl
    · exact Or.inr rfl
  case upward =>
    dsimp only
    split_ifs
    · exact Or.inl rfl
    · exact Or.inr rfl
    · exact Or.inr rfl

theorem meets_of_onGrid {interval : Interval} {tie : Tie} {decimal : Int} {count : Nat}
    (found : interval.onGrid? tie decimal = some count) : interval.meets decimal count = true := by
  obtain ⟨nearer, neighbour, grid⟩ := interval.onGrid?_eq tie decimal
  rw [grid] at found
  split at found
  · rename_i first second
    cases found
    rcases neighbour with rfl | rfl
    · exact first
    · exact second
  · rename_i first _
    cases found
    exact first
  · rename_i _ second
    cases found
    exact second
  · cases found

/-- A grid at least as fine as the interval's own places has a point inside. -/
theorem onGrid?_isSome {interval : Interval} {decimal : Int} (tie : Tie)
    (low : interval.low < interval.center) (high : interval.center < interval.high)
    (fine : (10 : ℚ) ^ decimal ≤ 2 ^ interval.exponent) :
    (interval.onGrid? tie decimal).isSome = true := by
  obtain ⟨nearer, _, grid⟩ := interval.onGrid?_eq tie decimal
  have unit := (scaled_le_iff interval.exponent decimal 1 1).2.mpr (by simpa using fine)
  have inside : interval.meets decimal (interval.before decimal) = true := by
    have positive : 0 < (scales interval.exponent decimal).2 :=
      Nat.mul_pos (twoTo_pos _) (tenTo_pos _)
    have down := Nat.mul_le_mul_right (scales interval.exponent decimal).1 low
    have up := Nat.mul_le_mul_right (scales interval.exponent decimal).1 high
    have step := Nat.div_add_mod
      (interval.center * (scales interval.exponent decimal).1) (scales interval.exponent decimal).2
    have part := Nat.mod_lt
      (interval.center * (scales interval.exponent decimal).1) positive
    rw [mul_comm, ← before] at step
    rw [Nat.succ_mul] at down up
    have above : interval.low * (scales interval.exponent decimal).1 <
        interval.before decimal * (scales interval.exponent decimal).2 := by omega
    have below : interval.before decimal * (scales interval.exponent decimal).2 <
        interval.high * (scales interval.exponent decimal).1 := by omega
    unfold meets
    cases interval.closed
    · simpa using And.intro above below
    · simpa using And.intro above.le below.le
  rw [grid, inside]
  cases interval.meets decimal (interval.before decimal + 1)
  · rfl
  · rfl

/-- The search ends inside the interval when a grid within its fuel meets it. -/
theorem holds_search {interval : Interval} {tie : Tie} {fuel : Nat} {decimal : Int}
    (reached : ∃ steps ≤ fuel, (interval.onGrid? tie (decimal - steps)).isSome = true) :
    interval.Holds (interval.search tie fuel decimal).worth := by
  induction fuel generalizing decimal with
  | zero =>
    obtain ⟨steps, few, found⟩ := reached
    obtain rfl : steps = 0 := by omega
    obtain ⟨count, grid⟩ := Option.isSome_iff_exists.mp found
    rw [Nat.cast_zero, sub_zero] at grid
    rw [search, grid]
    exact holds_of_meets (meets_of_onGrid grid)
  | succ fuel ih =>
    rw [search]
    cases grid : interval.onGrid? tie decimal with
    | some count => exact holds_of_meets (meets_of_onGrid grid)
    | none =>
      obtain ⟨steps, few, found⟩ := reached
      cases steps with
      | zero =>
        rw [Nat.cast_zero, sub_zero, grid] at found
        cases found
      | succ steps =>
        refine ih ⟨steps, by omega, ?_⟩
        rwa [sub_sub, add_comm, ← Nat.cast_succ]

end Interval

/-- Zeros at the end of the digits change only how the number is written. -/
theorem Scientific.worth_strip (fuel : Nat) (value : Scientific) :
    (value.strip fuel).worth = value.worth := by
  induction fuel generalizing value with
  | zero => rfl
  | succ fuel ih =>
    rw [strip]
    split
    · rename_i trailing
      rw [ih, worth, worth, zpow_add₀ (by norm_num), zpow_one]
      have whole : value.digits / 10 * 10 = value.digits := by omega
      have digits : (value.digits : ℚ) = (value.digits / 10 : Nat) * 10 := by
        exact_mod_cast whole.symm
      rw [digits]
      ring
    · rfl

section Estimate

theorem ten_pow_le (exponent : Nat) : 10 ^ exponent ≤ 2 ^ (10 * (exponent / 3) + 7) := by
  have small : exponent % 3 ≤ 2 := by omega
  calc 10 ^ exponent = (10 ^ 3) ^ (exponent / 3) * 10 ^ (exponent % 3) := by
        rw [← pow_mul, ← pow_add, Nat.div_add_mod]
    _ ≤ (2 ^ 10) ^ (exponent / 3) * 2 ^ 7 :=
        Nat.mul_le_mul (Nat.pow_le_pow_left (by norm_num) _)
          ((Nat.pow_le_pow_right (by norm_num) small).trans (by norm_num))
    _ = 2 ^ (10 * (exponent / 3) + 7) := by rw [← pow_mul, ← pow_add]

theorem two_pow_le (exponent : Nat) :
    2 ^ (93 * (exponent / 28) + 3 * (exponent % 28)) ≤ 10 ^ exponent := by
  calc 2 ^ (93 * (exponent / 28) + 3 * (exponent % 28))
      = (2 ^ 93) ^ (exponent / 28) * (2 ^ 3) ^ (exponent % 28) := by
        rw [← pow_mul, ← pow_mul, ← pow_add]
    _ ≤ (10 ^ 28) ^ (exponent / 28) * 10 ^ (exponent % 28) :=
        Nat.mul_le_mul (Nat.pow_le_pow_left (by norm_num) _) (Nat.pow_le_pow_left (by norm_num) _)
    _ = 10 ^ exponent := by rw [← pow_mul, ← pow_add, Nat.div_add_mod]

/-- The guess at the first decimal place of `2 ^ binary` is at most a few places too high. -/
theorem guess_le (binary : Int) (low : -1100 ≤ binary) (high : binary ≤ 1100) :
    (10 : ℚ) ^ (binary * 30103 / 100000) ≤ 2 ^ (binary + 15) := by
  cases guess : binary * 30103 / 100000 with
  | ofNat exponent =>
    have power : ((10 ^ exponent : Nat) : ℚ) ≤ (2 ^ (10 * (exponent / 3) + 7) : Nat) :=
      Nat.cast_le.mpr (ten_pow_le exponent)
    have places : ((10 * (exponent / 3) + 7 : Nat) : Int) ≤ binary + 15 := by
      have := Int.ofNat_eq_natCast exponent
      omega
    calc (10 : ℚ) ^ (Int.ofNat exponent) = (10 ^ exponent : Nat) := by simp
      _ ≤ (2 ^ (10 * (exponent / 3) + 7) : Nat) := power
      _ = 2 ^ ((10 * (exponent / 3) + 7 : Nat) : Int) := by rw [zpow_natCast]; simp
      _ ≤ 2 ^ (binary + 15) := zpow_le_zpow_right₀ (by norm_num) places
  | negSucc less =>
    have power : ((2 ^ (93 * ((less + 1) / 28) + 3 * ((less + 1) % 28)) : Nat) : ℚ) ≤
        (10 ^ (less + 1) : Nat) := Nat.cast_le.mpr (two_pow_le (less + 1))
    have places : -((93 * ((less + 1) / 28) + 3 * ((less + 1) % 28) : Nat) : Int) ≤
        binary + 15 := by
      have := Int.negSucc_eq less
      omega
    calc (10 : ℚ) ^ (Int.negSucc less) = ((10 ^ (less + 1) : Nat) : ℚ)⁻¹ := by simp
      _ ≤ ((2 ^ (93 * ((less + 1) / 28) + 3 * ((less + 1) % 28)) : Nat) : ℚ)⁻¹ :=
          inv_anti₀ (by positivity) power
      _ = 2 ^ (-((93 * ((less + 1) / 28) + 3 * ((less + 1) % 28) : Nat) : Int)) := by
          rw [zpow_neg, zpow_natCast]; simp
      _ ≤ 2 ^ (binary + 15) := zpow_le_zpow_right₀ (by norm_num) places

end Estimate

/-- Twenty places below the first digit the grid is finer than the interval's own places. -/
theorem Interval.fine_of_leading (interval : Interval) (positive : 0 < interval.center)
    (small : interval.center < 2 ^ 55) (low : -1076 ≤ interval.exponent)
    (high : interval.exponent ≤ 969) :
    (10 : ℚ) ^ (interval.leading - 20) ≤ 2 ^ interval.exponent := by
  have places : (0 : ℚ) < 2 ^ interval.exponent := by positivity
  have reached {decimal : Int} (reaches : interval.reaches decimal = true) :
      (10 : ℚ) ^ (decimal - 20) ≤ 2 ^ interval.exponent := by
    have first : (10 : ℚ) ^ decimal ≤ interval.center * 2 ^ interval.exponent := by
      have scaled : 1 * (scales interval.exponent decimal).2 ≤
          interval.center * (scales interval.exponent decimal).1 := by
        rw [one_mul]
        exact of_decide_eq_true reaches
      simpa using (scaled_le_iff interval.exponent decimal interval.center 1).2.mp scaled
    have center : (interval.center : ℚ) ≤ 10 ^ (20 : Int) := by
      have cast : (interval.center : ℚ) ≤ (2 ^ 55 : Nat) := Nat.cast_le.mpr small.le
      exact cast.trans (by norm_num)
    rw [zpow_sub₀ (by norm_num), div_le_iff₀ (by positivity), mul_comm]
    exact first.trans (mul_le_mul_of_nonneg_right center places.le)
  have few : Nat.log2 interval.center < 55 := (Nat.log2_lt positive.ne').mpr small
  unfold leading
  dsimp only
  split
  · have guess := guess_le (Nat.log2 interval.center + interval.exponent)
      (by omega) (by omega)
    have scale : (2 : ℚ) ^ (Nat.log2 interval.center + interval.exponent + 15 : Int) ≤
        2 ^ interval.exponent * 10 ^ (21 : Int) := by
      calc (2 : ℚ) ^ (Nat.log2 interval.center + interval.exponent + 15 : Int)
          ≤ 2 ^ (interval.exponent + 69) := zpow_le_zpow_right₀ (by norm_num) (by omega)
        _ = 2 ^ interval.exponent * 2 ^ (69 : Int) := zpow_add₀ (by norm_num) _ _
        _ ≤ 2 ^ interval.exponent * 10 ^ (21 : Int) :=
            mul_le_mul_of_nonneg_left (by norm_num) places.le
    rw [sub_sub, zpow_sub₀ (by norm_num), div_le_iff₀ (by positivity)]
    exact guess.trans scale
  · rename_i guess
    split
    · rename_i next
      exact reached next
    · exact reached (by simpa using guess)

/-- A significand and an exponent as double precision keeps them: only the smallest magnitudes
leave the first bit of the significand out. -/
structure Canonical (significand : Nat) (exponent : Int) : Prop where
  positive : 0 < significand
  bounded : significand < 2 ^ 53
  low : -1074 ≤ exponent
  high : exponent ≤ 971
  full : -1074 < exponent → 2 ^ 52 ≤ significand

section Doubles

variable {significand other : Nat} {exponent place : Int}

theorem minExponent_double : Format.double.minExponent = -1074 := rfl

theorem Canonical.of_read {word : Nat} {negative : Bool}
    (read : Format.double.read word = .finite negative significand exponent)
    (positive : 0 < significand) : Canonical significand exponent := by
  have infinity : Format.double.infinityWord = 2047 * 2 ^ 52 := rfl
  have bits : twoTo Format.double.fractionBits = 2 ^ 52 := rfl
  unfold Format.read at read
  simp only [infinity, bits, minExponent_double] at read
  split at read
  · cases read
  split at read
  · cases read
  split at read
  · cases read
    exact ⟨positive, by omega, by omega, by omega, by omega⟩
  · cases read
    exact ⟨positive, by omega, by omega, by omega, by omega⟩

/-- The reals that round to a number in double precision, in quarters of its last place. The lower
end is nearer where the numbers below lie closer together. -/
theorem interval_double (significand : Nat) (exponent : Int) :
    ∃ low, Format.double.interval significand exponent =
        ⟨low, 4 * significand, 4 * significand + 2, significand % 2 = 0, exponent - 2⟩ ∧
      (low = 4 * significand - 2 ∨
        low = 4 * significand - 1 ∧ significand = 2 ^ 52 ∧ -1074 < exponent) ∧
      (significand = 2 ^ 52 → -1074 < exponent → low = 4 * significand - 1) := by
  refine ⟨_, rfl, ?_, fun least inner => if_pos ⟨least, inner⟩⟩
  by_cases nearer : significand = twoTo Format.double.fractionBits ∧
    Format.double.minExponent < exponent
  · exact Or.inr ⟨if_pos nearer, nearer⟩
  · exact Or.inl (if_neg nearer)

theorem holds_shortest (canonical : Canonical significand exponent) (tie : Tie) :
    (Format.double.interval significand exponent).Holds
      (Format.double.shortest tie significand exponent).worth := by
  obtain ⟨positive, bounded, least, most, _⟩ := canonical
  obtain ⟨low, interval, ends, _⟩ := interval_double significand exponent
  have below : low < 4 * significand := by omega
  have fine := Interval.fine_of_leading (Format.double.interval significand exponent)
  unfold Format.shortest
  rw [Scientific.worth_strip]
  rw [interval] at fine ⊢
  exact Interval.holds_search ⟨20, le_rfl, Interval.onGrid?_isSome tie below (by dsimp only; omega)
    (fine (by dsimp only; omega) (by dsimp only; omega) (by dsimp only; omega)
      (by dsimp only; omega))⟩

/-- Of two numbers at one exponent the greater one's reals lie past the smaller one's. -/
theorem significand_le_of_holds {point : ℚ} (canonical : Canonical significand exponent)
    (first : (Format.double.interval significand exponent).Holds point)
    (second : (Format.double.interval other exponent).Holds point) : other ≤ significand := by
  obtain ⟨low, interval, _⟩ := interval_double significand exponent
  obtain ⟨low', interval', ends, _⟩ := interval_double other exponent
  rw [interval] at first
  rw [interval'] at second
  have unit : (0 : ℚ) < 2 ^ (exponent - 2) := by positivity
  by_contra greater
  have meet : low' ≤ 4 * significand + 2 := by
    have chain := second.above.trans first.below
    exact_mod_cast le_of_mul_le_mul_right chain unit
  -- the two can only share an end, and one of them leaves its ends out
  have neighbour : other = significand + 1 ∧ low' = 4 * significand + 2 := by
    have positive := canonical.positive
    omega
  have same : (low' : ℚ) * 2 ^ (exponent - 2) = point := by
    have lower := second.above
    have upper := first.below
    dsimp only at lower upper
    rw [neighbour.2] at lower ⊢
    exact le_antisymm lower upper
  rcases Nat.mod_two_eq_zero_or_one significand with even | odd
  · have isOpen : other % 2 ≠ 0 := by omega
    exact (second.inner (decide_eq_false isOpen)).1 same
  · have isOpen : significand % 2 ≠ 0 := by omega
    exact (first.inner (decide_eq_false isOpen)).2 (by rw [← same, neighbour.2])

theorem exponent_le_of_holds {point : ℚ} (canonical : Canonical significand exponent)
    (also : Canonical other place)
    (first : (Format.double.interval significand exponent).Holds point)
    (second : (Format.double.interval other place).Holds point) : place ≤ exponent := by
  obtain ⟨low, interval, _⟩ := interval_double significand exponent
  obtain ⟨low', interval', ends, nearer⟩ := interval_double other place
  rw [interval] at first
  rw [interval'] at second
  have unit : (0 : ℚ) < 2 ^ (exponent - 2) := by positivity
  by_contra greater
  have past : -1074 < place := by
    have least := canonical.low
    omega
  have full := also.full past
  have bounded := canonical.bounded
  have coarse : (low' : ℚ) * 2 * 2 ^ (exponent - 2) ≤ low' * 2 ^ (place - 2) := by
    have step : (2 : ℚ) ^ (exponent - 2 + 1) ≤ 2 ^ (place - 2) :=
      zpow_le_zpow_right₀ (by norm_num) (by omega)
    rw [zpow_add₀ (by norm_num), zpow_one, mul_comm] at step
    rw [mul_assoc]
    exact mul_le_mul_of_nonneg_left step (by positivity)
  have meet : low' * 2 ≤ 4 * significand + 2 := by
    have chain := (coarse.trans second.above).trans first.below
    exact_mod_cast le_of_mul_le_mul_right chain unit
  -- the least number of a binade touches at most the last one below, which leaves its ends out
  have touching : significand = 2 ^ 53 - 1 ∧ low' * 2 = 4 * significand + 2 := by
    by_cases least : other = 2 ^ 52
    · have close := nearer least past
      omega
    · omega
  have isOpen : significand % 2 ≠ 0 := by omega
  refine (first.inner (decide_eq_false isOpen)).2 (le_antisymm first.below ?_)
  have reach := coarse.trans second.above
  have cast : (low' : ℚ) * 2 = (4 * significand + 2 : Nat) := by exact_mod_cast touching.2
  rwa [cast] at reach

/-- Reals round to at most one number. -/
theorem eq_of_holds {point : ℚ} (canonical : Canonical significand exponent)
    (also : Canonical other place)
    (first : (Format.double.interval significand exponent).Holds point)
    (second : (Format.double.interval other place).Holds point) :
    significand = other ∧ exponent = place := by
  obtain rfl : exponent = place := le_antisymm
    (exponent_le_of_holds also canonical second first)
    (exponent_le_of_holds canonical also first second)
  exact ⟨le_antisymm (significand_le_of_holds also second first)
    (significand_le_of_holds canonical first second), rfl⟩

/-- The shortest decimal tells which number it was made of. -/
theorem eq_of_worth_shortest (canonical : Canonical significand exponent)
    (also : Canonical other place) (tie : Tie)
    (same : (Format.double.shortest tie significand exponent).worth =
      (Format.double.shortest tie other place).worth) :
    significand = other ∧ exponent = place := by
  have second := holds_shortest also tie
  rw [← same] at second
  exact eq_of_holds canonical also (holds_shortest canonical tie) second

/-- A decimal of a number is not zero. -/
theorem worth_shortest_pos (canonical : Canonical significand exponent) (tie : Tie) :
    0 < (Format.double.shortest tie significand exponent).worth := by
  have above := (holds_shortest canonical tie).above
  obtain ⟨low, interval, ends, _⟩ := interval_double significand exponent
  have positive := canonical.positive
  have least : 0 < low := by omega
  rw [interval] at above
  have cast : (0 : ℚ) < low := Nat.cast_pos.mpr least
  exact lt_of_lt_of_le (by positivity) above

end Doubles

end FluentSql.Number
