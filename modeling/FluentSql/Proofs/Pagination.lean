import FluentSql.Pagination
import Mathlib.Algebra.Order.Floor.Div
import Mathlib.Order.Interval.Finset.Nat

/-! The arithmetic of pages. On 64-bit words no offset of a page within the result runs over, and
the windows of these pages hold every row once. -/
namespace FluentSql.Pagination

variable {total perPage page : UInt64} {row : Nat}

theorem toNat_clamp (count : UInt64) : (clamp count).toNat = max 1 count.toNat := by
  by_cases zero : count = 0
  · subst count
    rfl
  · have positive : count.toNat ≠ 0 := fun none => zero (UInt64.toNat_inj.mp none)
    rw [clamp, if_neg zero]
    omega

theorem clamp_pos (count : UInt64) : 0 < (clamp count).toNat := by
  rw [toNat_clamp]
  omega

theorem clamp_clamp (count : UInt64) : clamp (clamp count) = clamp count := by
  apply UInt64.toNat_inj.mp
  rw [toNat_clamp, toNat_clamp]
  omega

theorem lastPageOf_clamp (total perPage : UInt64) :
    lastPageOf total (clamp perPage) = lastPageOf total perPage := by
  simp only [lastPageOf, clamp_clamp]

theorem offsetOf_clamp (page perPage : UInt64) :
    offsetOf (clamp page) (clamp perPage) = offsetOf page perPage := by
  simp only [offsetOf, clamp_clamp]

/-- There are as many pages as it takes to hold the rows. -/
theorem toNat_lastPageOf_le_iff (total perPage : UInt64) (pages : Nat) :
    (lastPageOf total perPage).toNat ≤ pages ↔ total.toNat ≤ (clamp perPage).toNat * pages := by
  have size := clamp_pos perPage
  have bound := total.toNat_lt
  have split := Nat.div_add_mod total.toNat (clamp perPage).toNat
  have short := Nat.mod_lt total.toNat size
  by_cases full : total % clamp perPage = 0
  · have rest : total.toNat % (clamp perPage).toNat = 0 := by
      rw [← UInt64.toNat_mod, full]
      rfl
    rw [rest, Nat.add_zero] at split
    rw [lastPageOf, if_pos full, UInt64.toNat_div]
    conv_rhs => rw [← split]
    exact (Nat.mul_le_mul_left_iff size).symm
  · have rest : total.toNat % (clamp perPage).toNat ≠ 0 := by
      intro none
      exact full (UInt64.toNat_inj.mp ((UInt64.toNat_mod _ _).trans none))
    -- With a rest there are at least two rows on a page, so that one more page is no overflow.
    have fits : total.toNat / (clamp perPage).toNat + 1 < 2 ^ 64 := by
      have halved : total.toNat / (clamp perPage).toNat ≤ total.toNat / 2 :=
        Nat.div_le_div_left (by omega) (by omega)
      omega
    have more : (lastPageOf total perPage).toNat = total.toNat / (clamp perPage).toNat + 1 := by
      rw [lastPageOf, if_neg full, UInt64.toNat_add, UInt64.toNat_div]
      exact Nat.mod_eq_of_lt fits
    rw [more]
    constructor
    · intro enough
      have held := Nat.mul_le_mul_left (clamp perPage).toNat enough
      rw [Nat.mul_add, Nat.mul_one] at held
      omega
    · intro held
      apply Nat.lt_of_not_le
      intro few
      have less := Nat.mul_le_mul_left (clamp perPage).toNat few
      omega

/-- The number of pages is the quotient rounded up. -/
theorem toNat_lastPageOf (total perPage : UInt64) :
    (lastPageOf total perPage).toNat = total.toNat ⌈/⌉ (clamp perPage).toNat := by
  apply eq_of_forall_ge_iff
  intro pages
  rw [toNat_lastPageOf_le_iff, ceilDiv_le_iff_le_mul (clamp_pos perPage)]

/-- A page that is there: pages count from one. -/
def Present (total perPage page : UInt64) : Prop := 1 ≤ page ∧ page ≤ lastPageOf total perPage

theorem present_iff : Present total perPage page ↔
    1 ≤ page.toNat ∧ (clamp perPage).toNat * (page.toNat - 1) < total.toNat := by
  have held := toNat_lastPageOf_le_iff total perPage (page.toNat - 1)
  have first : (1 : UInt64).toNat = 1 := rfl
  rw [Present, UInt64.le_iff_toNat_le, UInt64.le_iff_toNat_le, first]
  omega

/-- Without rows, and past the last page, there is no page. -/
theorem past_iff (total perPage number : UInt64) :
    (total = 0 ∨ lastPageOf total perPage < clamp number) ↔
      ¬ Present total perPage (clamp number) := by
  have first := clamp_pos number
  have zero : (0 : UInt64).toNat = 0 := rfl
  have held := toNat_lastPageOf_le_iff total perPage ((clamp number).toNat - 1)
  rw [present_iff, UInt64.lt_iff_toNat_lt, ← UInt64.toNat_inj, zero]
  constructor
  · rintro (none | past) ⟨-, below⟩
    · omega
    · omega
  · intro absent
    omega

/-- The pages that are there are those within the number of pages. -/
theorem present_clamp_iff (total perPage number : UInt64) :
    Present total perPage (clamp number) ↔
      max 1 number.toNat ≤ total.toNat ⌈/⌉ max 1 perPage.toNat := by
  have first : (1 : UInt64).toNat = 1 := rfl
  rw [Present, UInt64.le_iff_toNat_le, UInt64.le_iff_toNat_le, toNat_lastPageOf, toNat_clamp,
    toNat_clamp, first]
  exact and_iff_right (Nat.le_max_left _ _)

/-- The offset of a page that is there is below the number of rows, and so below the largest
word. -/
theorem toNat_offsetOf (present : Present total perPage page) :
    (offsetOf page perPage).toNat = (page.toNat - 1) * (clamp perPage).toNat ∧
      (offsetOf page perPage).toNat < total.toNat := by
  obtain ⟨first, below⟩ := present_iff.mp present
  have bound := total.toNat_lt
  have one : (1 : UInt64).toNat = 1 := rfl
  have number : (clamp page).toNat = page.toNat := by
    rw [toNat_clamp]
    omega
  have before : (clamp page - 1).toNat = page.toNat - 1 := by
    rw [UInt64.toNat_sub_of_le _ _ (by rw [UInt64.le_iff_toNat_le]; omega), number, one]
  have product : (offsetOf page perPage).toNat = (page.toNat - 1) * (clamp perPage).toNat := by
    rw [offsetOf, UInt64.toNat_mul, before]
    apply Nat.mod_eq_of_lt
    rw [Nat.mul_comm]
    omega
  refine ⟨product, ?_⟩
  rw [product, Nat.mul_comm]
  exact below

/-- The rows of a page by their numbers from zero, cut off at the number of rows. -/
def window (total perPage page : UInt64) : Finset Nat :=
  Finset.Ico (offsetOf page perPage).toNat
    (min ((offsetOf page perPage).toNat + (clamp perPage).toNat) total.toNat)

theorem mem_window_iff (present : Present total perPage page) :
    row ∈ window total perPage page ↔
      row < total.toNat ∧ row / (clamp perPage).toNat = page.toNat - 1 := by
  obtain ⟨offset, _⟩ := toNat_offsetOf present
  have size := clamp_pos perPage
  rw [window, Finset.mem_Ico, offset, Nat.div_eq_iff size, lt_min_iff]
  constructor
  · rintro ⟨above, below, inside⟩
    exact ⟨inside, above, by omega⟩
  · rintro ⟨inside, above, below⟩
    exact ⟨above, by omega, inside⟩

/-- The page that a row stands on. -/
def pageOf (perPage : UInt64) (row : Nat) : UInt64 :=
  UInt64.ofNat (row / (clamp perPage).toNat + 1)

theorem toNat_pageOf (inside : row < total.toNat) (perPage : UInt64) :
    (pageOf perPage row).toNat = row / (clamp perPage).toNat + 1 := by
  have bound := total.toNat_lt
  have fewer := Nat.div_le_self row (clamp perPage).toNat
  have fits : row / (clamp perPage).toNat + 1 < 2 ^ 64 := by omega
  exact UInt64.toNat_ofNat_of_lt' fits

theorem present_pageOf (inside : row < total.toNat) (perPage : UInt64) :
    Present total perPage (pageOf perPage row) := by
  rw [present_iff, toNat_pageOf inside, Nat.add_sub_cancel]
  exact ⟨Nat.le_add_left _ _, (Nat.mul_div_le row _).trans_lt inside⟩

/-- The windows of the pages that are there part the numbers of the rows among them. -/
structure Parted (total perPage : UInt64) : Prop where
  nonempty : ∀ page, Present total perPage page → (window total perPage page).Nonempty
  within : ∀ page, Present total perPage page →
    window total perPage page ⊆ Finset.range total.toNat
  unique : ∀ row < total.toNat,
    ∃! page, Present total perPage page ∧ row ∈ window total perPage page

theorem parted (total perPage : UInt64) : Parted total perPage where
  nonempty page present := by
    obtain ⟨_, below⟩ := toNat_offsetOf present
    have size := clamp_pos perPage
    exact Finset.nonempty_Ico.mpr (lt_min (by omega) below)
  within page present row member :=
    Finset.mem_range.mpr ((mem_window_iff present).mp member).1
  unique row inside := by
    have number := toNat_pageOf inside perPage
    have present := present_pageOf inside perPage
    have member : row ∈ window total perPage (pageOf perPage row) := by
      rw [mem_window_iff present, number, Nat.add_sub_cancel]
      exact ⟨inside, rfl⟩
    refine ⟨pageOf perPage row, ⟨present, member⟩, ?_⟩
    rintro page ⟨there, held⟩
    have same := ((mem_window_iff there).mp held).2
    have first := (present_iff.mp there).1
    apply UInt64.toNat_inj.mp
    omega

end FluentSql.Pagination
