import Gapfill.Number.Decimal
import Gapfill.Proofs.Number.Precision

/-!
# The shortest decimal denotes the number

What lies between the middles around a number is rounded to it, and the middles
are if its rank is even (`nearestRank_eq_of_between`). This is what the search
for the shortest decimal tests, and where it finds none the number itself is
taken. So rounding the decimal gives the number back (`shortest_denotes`).
-/

namespace Gapfill

namespace Binary64

/-! ## What is rounded to a number -/

/-- Both parts of a quotient may be multiplied with the same number. -/
theorem nearestRank_mul_right (num den : Nat) {c : Nat} (hc : 0 < c) :
    nearestRank (num * c) (den * c) = nearestRank num den := by
  have hcompare : ∀ a, compare (2 * (num * c)) (a * (den * c)) = compare (2 * num) (a * den) := by
    intro a
    rw [← Nat.mul_assoc, ← Nat.mul_assoc]
    rcases Nat.lt_trichotomy (2 * num) (a * den) with hlt | heq | hgt
    · rw [Nat.compare_eq_lt.mpr hlt, Nat.compare_eq_lt.mpr (Nat.mul_lt_mul_of_pos_right hlt hc)]
    · rw [heq, Nat.compare_eq_eq.mpr rfl, Nat.compare_eq_eq.mpr rfl]
    · rw [Nat.compare_eq_gt.mpr hgt, Nat.compare_eq_gt.mpr (Nat.mul_lt_mul_of_pos_right hgt hc)]
  unfold nearestRank
  dsimp only
  rw [Nat.mul_div_mul_right _ _ hc, hcompare]

section

variable {rank num den : Nat} (hden : 0 < den) (hrank : rank < infinityRank)

include hden hrank

/-- Between two neighbours the middle decides. -/
theorem nearestRank_eq_roundAt (hlow : units rank * den ≤ num)
    (hhigh : num < units (rank + 1) * den) :
    nearestRank num den
      = roundAt rank (compare (2 * num) ((units rank + units (rank + 1)) * den)) := by
  have hfloor : floorRank (num / den) = rank := by
    refine Nat.le_antisymm (Nat.le_of_lt_succ (Nat.lt_of_not_le fun hle => ?_)) ?_
    · have hquotient : num / den < units (rank + 1) := (Nat.div_lt_iff_lt_mul hden).mpr hhigh
      have hnext := Nat.le_trans (units_mono hle) (units_floorRank_le (num / den))
      exact Nat.not_lt.mpr hnext hquotient
    · calc rank = floorRank (units rank) := (floorRank_units rank).symm
        _ ≤ floorRank (num / den) := floorRank_mono ((Nat.le_div_iff_mul_le hden).mpr hlow)
  unfold nearestRank
  dsimp only
  rw [hfloor, Nat.min_eq_left (Nat.le_sub_one_of_lt hrank)]

/-- What is not beyond the middles around a number is rounded to it. An odd rank loses a tie. -/
theorem nearestRank_eq_of_between (hlow : (units (rank - 1) + units rank) * den ≤ 2 * num)
    (hhigh : 2 * num ≤ (units rank + units (rank + 1)) * den)
    (hodd : rank % 2 = 1 → (units (rank - 1) + units rank) * den ≠ 2 * num
      ∧ 2 * num ≠ (units rank + units (rank + 1)) * den) :
    nearestRank num den = rank := by
  have hstep := Nat.mul_lt_mul_of_pos_right (units_lt_succ rank) hden
  by_cases hbelow : num < units rank * den
  · cases rank with
    | zero => exact absurd hbelow (by simp [units_zero])
    | succ r =>
        rw [Nat.add_sub_cancel, Nat.add_mul] at *
        have hr := Nat.mul_lt_mul_of_pos_right (units_lt_succ r) hden
        rw [nearestRank_eq_roundAt hden (Nat.lt_of_succ_lt hrank) (by omega) hbelow, Nat.add_mul]
        rcases Nat.lt_or_eq_of_le hlow with hlt | heq
        · rw [Nat.compare_eq_gt.mpr hlt]
          rfl
        · have hparity : ¬ r % 2 = 0 := fun heven => (hodd (by omega)).1 heq
          rw [heq, Nat.compare_eq_eq.mpr rfl, roundAt, if_neg hparity]
  · have habove : num < units (rank + 1) * den := by
      rw [Nat.add_mul] at hhigh
      omega
    rw [nearestRank_eq_roundAt hden hrank (Nat.le_of_not_lt hbelow) habove]
    rcases Nat.lt_or_eq_of_le hhigh with hlt | heq
    · rw [Nat.compare_eq_lt.mpr hlt]
      rfl
    · have hparity : rank % 2 = 0 := by
        by_contra hne
        exact (hodd (by omega)).2 heq
      rw [heq, Nat.compare_eq_eq.mpr rfl, roundAt, if_pos hparity]

end

/-! ## Decimals -/

namespace Decimal

/-- The decimal is `num / den` units. -/
def num (d : Decimal) : Nat := d.digits * (10 ^ d.exponent.toNat * unitsPerOne)

def den (d : Decimal) : Nat := 10 ^ (-d.exponent).toNat

theorem den_pos (d : Decimal) : 0 < d.den := Nat.pow_pos (by decide)

/-- The decimal rounds to the number of this rank, and is not beyond the middle above it. Its
last digit does not stand lower than those of all numbers. -/
structure Denotes (d : Decimal) (rank : Nat) : Prop where
  nearest : nearestRank d.num d.den = rank
  le_middle : 2 * d.num ≤ (units rank + units (rank + 1)) * d.den
  le_exponent : -1074 ≤ d.exponent

end Decimal

theorem gridOf_eq (exponent : Int) :
    gridOf exponent = ⟨10 ^ exponent.toNat * unitsPerOne, 10 ^ (-exponent).toNat⟩ := by
  unfold gridOf
  split
  · rename_i hle
    rw [Int.toNat_of_nonpos (Int.neg_nonpos_of_nonneg hle)]
    rfl
  · rename_i hlt
    rw [Int.toNat_of_nonpos (Int.le_of_lt (Int.lt_of_not_ge hlt)), Nat.pow_zero, Nat.one_mul]
    rfl

theorem Grid.roundsTo_of_nearest? {g : Grid} {tie : Tie} {rank d : Nat}
    (h : g.nearest? tie rank = some d) : g.roundsTo rank d = true := by
  unfold nearest? at h
  dsimp only at h
  split at h
  · rename_i hlow hhigh
    obtain rfl := Option.some.inj h
    exact (Bool.and_eq_true_iff.mp hlow).1
  · rename_i hlow hhigh
    obtain rfl := Option.some.inj h
    exact hhigh
  · cases h
  · rename_i hlow hhigh
    have hlow := (Bool.and_eq_true_iff.mp hlow).1
    split at h
    · obtain rfl := Option.some.inj h
      exact hlow
    · obtain rfl := Option.some.inj h
      exact hhigh
    · split at h
      · obtain rfl := Option.some.inj h
        exact hlow
      · obtain rfl := Option.some.inj h
        exact hhigh

theorem denotes_of_roundsTo {rank digits : Nat} {exponent : Int} (hrank : rank < infinityRank)
    (hexponent : -1074 ≤ exponent) (h : (gridOf exponent).roundsTo rank digits = true) :
    (Decimal.mk digits exponent).Denotes rank := by
  rw [gridOf_eq, Grid.roundsTo] at h
  dsimp only at h
  rw [Nat.mul_assoc 2 digits] at h
  have hden := Decimal.den_pos ⟨digits, exponent⟩
  split at h
  · rename_i heven
    simp only [Bool.and_eq_true, decide_eq_true_eq] at h
    obtain ⟨hlow, hhigh⟩ := h
    exact ⟨nearestRank_eq_of_between hden hrank hlow hhigh (by omega), hhigh, hexponent⟩
  · simp only [Bool.and_eq_true, decide_eq_true_eq] at h
    obtain ⟨hlow, hhigh⟩ := h
    exact ⟨nearestRank_eq_of_between hden hrank (Nat.le_of_lt hlow) (Nat.le_of_lt hhigh)
      fun _ => ⟨Nat.ne_of_lt hlow, Nat.ne_of_lt hhigh⟩, Nat.le_of_lt hhigh, hexponent⟩

/-- A decimal that is the number itself. -/
theorem denotes_of_num_eq {rank : Nat} {d : Decimal} (hrank : rank < infinityRank)
    (hnum : d.num = units rank * d.den) (hexponent : -1074 ≤ d.exponent) : d.Denotes rank := by
  refine ⟨?_, ?_, hexponent⟩
  · rw [hnum]
    exact nearestRank_units hrank d.den_pos
  · rw [hnum, ← Nat.mul_assoc]
    refine Nat.mul_le_mul_right _ ?_
    have := units_lt_succ rank
    omega

theorem fullScale_eq : Nat.pow 5 1074 * (10 ^ (-1074 : Int).toNat * unitsPerOne)
    = 10 ^ (-(-1074) : Int).toNat := by decide +kernel

theorem shortestFrom_denotes (tie : Tie) {rank : Nat} (hrank : rank < infinityRank) :
    ∀ (fuel : Nat) {exponent : Int}, -1074 ≤ exponent - fuel →
      (shortestFrom tie rank fuel exponent).Denotes rank
  | 0, _, _ => by
      rw [shortestFrom]
      refine denotes_of_num_eq hrank ?_ (Int.le_refl _)
      rw [Decimal.num, Decimal.den, Nat.mul_assoc, fullScale_eq]
  | fuel + 1, exponent, h => by
      rw [shortestFrom]
      split
      · rename_i digits hdigits
        exact denotes_of_roundsTo hrank (by omega) (Grid.roundsTo_of_nearest? hdigits)
      · exact shortestFrom_denotes tie hrank fuel (by omega)

/-- Rounding the shortest decimal gives the number back. -/
theorem shortest_denotes (tie : Tie) {rank : Nat} (hrank : rank < infinityRank) :
    (shortest tie rank).Denotes rank := by
  unfold shortest
  split
  · rename_i hzero
    subst hzero
    have hnum : (Decimal.mk 0 0).num = 0 := by rw [Decimal.num, Nat.zero_mul]
    refine ⟨?_, ?_, by decide⟩
    · rw [hnum]
      exact nearestRank_nothing (Decimal.den_pos _)
    · rw [hnum]
      exact Nat.zero_le _
  · refine shortestFrom_denotes tie hrank 24 ?_
    unfold exponentBound
    omega

end Binary64

end Gapfill
