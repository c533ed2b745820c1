import Mathlib.Tactic.Ring
import Gapfill.Proofs.Number.Sums

/-!
# How far rounding goes

Rounding moves a number by at most half of the distance between its neighbours
(`nearestRank_bounds`), and that distance grows with the rank. So a sum differs
from the exact one by at most as many halves of the distance at the sum as there
are summands (`sum_bounds`).

A quotient does not reach one by rounding: the next number below `b` is too far
away from it (`nearestRank_quotient_lt`). And a part of a number that comes of
quotients of small natural numbers is either the whole or visibly less, and
either nothing or visibly more (`PartOf.mul`).
-/

namespace Gapfill

namespace Binary64

/-! ## Steps -/

theorem units_lt_step (rank : Nat) : units rank < 2 ^ 53 * step rank := by
  have hbinade : 2 ^ 53 = 2 * binade := by decide
  by_cases hlow : rank < binade
  · rw [units_of_lt hlow, step_of_lt hlow]
    omega
  · obtain ⟨e, m, hm, rfl⟩ := exists_normal (Nat.le_of_not_lt hlow)
    rw [units_normal hm, step_normal hm, hbinade]
    exact Nat.mul_lt_mul_of_pos_right (by omega) (Nat.two_pow_pos e)

theorem step_le_units {rank : Nat} (h : binade ≤ rank) : 2 ^ 52 * step rank ≤ units rank := by
  obtain ⟨e, m, hm, rfl⟩ := exists_normal h
  rw [units_normal hm, step_normal hm, ← binade_eq]
  exact Nat.mul_le_mul_right _ (Nat.le_add_right _ _)

/-- A power of two that is a number of the format. -/
theorem units_pow {i : Nat} (h : 52 ≤ i) : units ((i - 51) * binade) = 2 ^ i := by
  have heq : (i - 51) * binade = (i - 52 + 1) * binade + 0 := by
    rw [Nat.add_zero]
    congr 1
    omega
  rw [heq, units_normal binade_pos, Nat.add_zero, binade_eq, ← Nat.pow_add]
  congr 1
  omega

theorem units_mul_pow {i k : Nat} (h : 52 ≤ i) :
    units ((i + k - 51) * binade) = units ((i - 51) * binade) * 2 ^ k := by
  rw [units_pow h, units_pow (Nat.le_trans h (Nat.le_add_right i k)), Nat.pow_add]

/-! ## The number below -/

/-- What is kept of a number when its last bits are cut off, and how many units they are. -/
theorem units_floorRank (n : Nat) :
    units (floorRank n) = n / 2 ^ (n.log2 - 52) * 2 ^ (n.log2 - 52)
      ∧ step (floorRank n) = 2 ^ (n.log2 - 52) := by
  obtain ⟨hlt, hle⟩ := floor_bounds n
  have hrank : floorRank n = (n.log2 - 52) * binade + n / 2 ^ (n.log2 - 52) := rfl
  rw [hrank]
  generalize n / 2 ^ (n.log2 - 52) = q at *
  generalize n.log2 - 52 = shift at *
  by_cases hq : q < binade
  · -- only a number without exponent is that short
    obtain rfl : shift = 0 := by omega
    rw [Nat.zero_mul, Nat.zero_add, units_of_lt hq, step_of_lt hq]
    simp
  · have heq : shift * binade + q = (shift + 1) * binade + (q - binade) := by
      rw [Nat.succ_mul]
      omega
    rw [heq, units_normal (by omega), step_normal (by omega),
      Nat.add_sub_cancel' (Nat.le_of_not_lt hq)]
    exact ⟨rfl, rfl⟩

theorem units_floorRank_le (n : Nat) : units (floorRank n) ≤ n := by
  rw [(units_floorRank n).1]
  exact Nat.div_mul_le_self _ _

theorem lt_units_floorRank_succ (n : Nat) : n < units (floorRank n + 1) := by
  rw [units_succ, (units_floorRank n).1, (units_floorRank n).2, ← Nat.succ_mul, Nat.mul_comm]
  exact Nat.lt_mul_div_succ n (Nat.two_pow_pos _)

/-! ## The error of rounding -/

/-- What is beyond the format is rounded to infinity. -/
theorem infinityRank_le_nearestRank {num den : Nat} (hden : 0 < den)
    (h : units infinityRank * den ≤ num) : infinityRank ≤ nearestRank num den := by
  have hfloor : infinityRank ≤ floorRank (num / den) := by
    refine Nat.le_of_lt_succ (Nat.lt_of_not_le fun hle => ?_)
    have hquotient : units infinityRank ≤ num / den := (Nat.le_div_iff_mul_le hden).mpr h
    have hnext : units (floorRank (num / den) + 1) ≤ units infinityRank := units_mono hle
    exact Nat.not_lt.mpr (Nat.le_trans hnext hquotient) (lt_units_floorRank_succ _)
  have hone : infinityRank - 1 + 1 = infinityRank := by decide
  have hlt : (units (infinityRank - 1) + units (infinityRank - 1 + 1)) * den < 2 * num := by
    have := units_lt_succ (infinityRank - 1)
    rw [hone] at this ⊢
    calc (units (infinityRank - 1) + units infinityRank) * den
        < (2 * units infinityRank) * den := Nat.mul_lt_mul_of_pos_right (by omega) hden
      _ = 2 * (units infinityRank * den) := Nat.mul_assoc _ _ _
      _ ≤ 2 * num := Nat.mul_le_mul_left 2 h
  unfold nearestRank
  dsimp only
  rw [Nat.min_eq_right (by omega), Nat.compare_eq_gt.mpr hlt, roundAt, hone]

/-- What is below the middle between two neighbours is not rounded to the upper one. -/
theorem nearestRank_le_of_lt_middle {rank num den : Nat}
    (h : 2 * num < (units rank + units (rank + 1)) * den) : nearestRank num den ≤ rank := by
  unfold nearestRank
  dsimp only
  have hlow : units (min (floorRank (num / den)) (infinityRank - 1)) * den ≤ num := by
    refine Nat.le_trans (Nat.mul_le_mul_right den ?_) (Nat.div_mul_le_self num den)
    exact Nat.le_trans (units_mono (Nat.min_le_left _ _)) (units_floorRank_le _)
  generalize min (floorRank (num / den)) (infinityRank - 1) = low at hlow ⊢
  rcases Nat.lt_trichotomy low rank with hlt | rfl | hgt
  · exact Nat.le_trans (roundAt_le low _) hlt
  · rw [Nat.compare_eq_lt.mpr h]
    exact Nat.le_refl low
  · have hle : units (rank + 1) * den ≤ units low * den :=
      Nat.mul_le_mul_right den (units_mono hgt)
    have hsucc := Nat.mul_le_mul_right den (Nat.le_of_lt (units_lt_succ rank))
    rw [Nat.add_mul] at h
    omega

/-- A quotient that is rounded to a finite number is no greater than all of them. -/
theorem floorRank_lt_of_nearestRank_lt {num den : Nat} (hden : 0 < den)
    (h : nearestRank num den < infinityRank) : floorRank (num / den) < infinityRank := by
  refine Nat.lt_of_not_le fun hinf => ?_
  have hbeyond : units infinityRank * den ≤ num :=
    Nat.le_trans (Nat.mul_le_mul_right den (Nat.le_trans (units_mono hinf) (units_floorRank_le _)))
      (Nat.div_mul_le_self num den)
  exact Nat.not_lt.mpr (infinityRank_le_nearestRank hden hbeyond) h

/-- What is rounded goes to the number below it, up to the middle of the step, or to the number
above it, from the middle on. -/
theorem nearestRank_cases {num den k : Nat} (hk : floorRank (num / den) = k)
    (hlt : k < infinityRank) :
    (nearestRank num den = k ∧ 2 * num ≤ (units k + units (k + 1)) * den)
      ∨ (nearestRank num den = k + 1 ∧ (units k + units (k + 1)) * den ≤ 2 * num) := by
  unfold nearestRank
  dsimp only
  rw [hk, Nat.min_eq_left (Nat.le_sub_one_of_lt hlt)]
  rcases Nat.lt_trichotomy (2 * num) ((units k + units (k + 1)) * den) with hless | heq | hmore
  · rw [Nat.compare_eq_lt.mpr hless]
    exact Or.inl ⟨rfl, Nat.le_of_lt hless⟩
  · rw [Nat.compare_eq_eq.mpr heq, roundAt]
    split
    · exact Or.inl ⟨rfl, Nat.le_of_eq heq⟩
    · exact Or.inr ⟨rfl, Nat.le_of_eq heq.symm⟩
  · rw [Nat.compare_eq_gt.mpr hmore]
    exact Or.inr ⟨rfl, Nat.le_of_lt hmore⟩

/-- Rounding goes by at most half of a step. Here the step is that at a rank which is not exceeded,
and the result is finite. -/
theorem nearestRank_bounds {num den rank : Nat} (hden : 0 < den)
    (hle : nearestRank num den ≤ rank) (hrank : rank < infinityRank) :
    2 * num ≤ (2 * units (nearestRank num den) + step rank) * den
      ∧ 2 * (units (nearestRank num den) * den) ≤ 2 * num + step rank * den := by
  have hlt := floorRank_lt_of_nearestRank_lt hden (Nat.lt_of_le_of_lt hle hrank)
  generalize hk : floorRank (num / den) = k at hlt
  have hfloor : units k * den ≤ num := by
    rw [← hk]
    exact Nat.le_trans (Nat.mul_le_mul_right den (units_floorRank_le _)) (Nat.div_mul_le_self _ _)
  have hceil : num < units (k + 1) * den := by
    rw [← Nat.div_lt_iff_lt_mul hden, ← hk]
    exact lt_units_floorRank_succ _
  have hcases := nearestRank_cases hk hlt
  have hlow : k ≤ rank := by omega
  have hstep := Nat.mul_le_mul_right den (step_mono hlow)
  rw [units_succ, Nat.add_mul] at hceil
  have hmiddle : (units k + units (k + 1)) * den = 2 * (units k * den) + step k * den := by
    rw [units_succ]
    ring
  rw [hmiddle] at hcases
  rcases hcases with ⟨hdown, hnear⟩ | ⟨hup, hnear⟩
  · rw [hdown, Nat.add_mul, Nat.mul_assoc]
    omega
  · rw [hup, Nat.add_mul, Nat.mul_assoc, units_succ, Nat.add_mul]
    omega

/-- A power of two is `2 ^ 53` times as much as it is away from the number before it. -/
theorem units_pow_eq_step {i rank : Nat} (h : 53 ≤ i) (hrank : rank = (i - 51) * binade) :
    units rank = 2 ^ 53 * step (rank - 1) := by
  subst hrank
  have hbinade := binade_pos
  have hpred : (i - 51) * binade - 1 = (i - 52) * binade + (binade - 1) := by
    rw [show i - 51 = i - 52 + 1 by omega, Nat.succ_mul]
    omega
  have hexponent : ((i - 51) * binade - 1) / binade = i - 52 := by
    rw [hpred, Nat.mul_comm, Nat.mul_add_div hbinade, Nat.div_eq_of_lt (by omega), Nat.add_zero]
  rw [units_pow (by omega), step, hexponent, ← Nat.pow_add]
  congr 1
  omega

theorem unitsPerOne_eq_step : unitsPerOne = 2 ^ 53 * step (oneRank - 1) := by
  calc unitsPerOne = units oneRank := units_oneRank.symm
    _ = 2 ^ 53 * step (oneRank - 1) := units_pow_eq_step (i := 1074) (by decide) rfl

/-- The quotient of a number by a greater one is less than one, rounded too: it is below the middle
between one and the number before it. -/
theorem nearestRank_quotient_lt {a b : Nat} (h : a < b) :
    nearestRank (units a * unitsPerOne) (units b) < oneRank := by
  have hone : oneRank - 1 + 1 = oneRank := by decide
  have hbelow : units (oneRank - 1) + step (oneRank - 1) = unitsPerOne := by
    rw [← units_succ, hone, units_oneRank]
  have hfar : 2 ^ 54 * units a < (2 ^ 54 - 1) * units b := by
    have := units_lt_step a
    have : units a + step a ≤ units b := units_succ a ▸ units_mono h
    omega
  have hmiddle : 2 * (units a * unitsPerOne) <
      (units (oneRank - 1) + units (oneRank - 1 + 1)) * units b := by
    have hstep := step_pos (oneRank - 1)
    rw [hone, units_oneRank]
    rw [unitsPerOne_eq_step] at hbelow ⊢
    generalize step (oneRank - 1) = s at *
    have hlast : units (oneRank - 1) = (2 ^ 53 - 1) * s := by omega
    calc 2 * (units a * (2 ^ 53 * s)) = 2 ^ 54 * units a * s := by ring
      _ < (2 ^ 54 - 1) * units b * s := Nat.mul_lt_mul_of_pos_right hfar hstep
      _ = (units (oneRank - 1) + 2 ^ 53 * s) * units b := by rw [hlast]; ring
  exact Nat.lt_of_le_of_lt (nearestRank_le_of_lt_middle hmiddle)
    (Nat.sub_lt oneRank_pos Nat.one_pos)

theorem div_unsigned {a b : Nat} {ha : a ≤ infinityRank} {hb : b ≤ infinityRank}
    (ha' : a < infinityRank) (hb' : b < infinityRank) (hpos : 0 < b) :
    signed false a ha / signed false b hb =
      signed false (nearestRank (units a * unitsPerOne) (units b)) (nearestRank_le _ _) := by
  rw [div_finite ha' hb' hpos]
  rfl

/-- Quotients by the same number keep the order. -/
theorem AtMost.div {x y m : Binary64} (h : AtMost x y) (hy : y.isFinite = true) (hm : Positive m)
    (hfinite : m.isFinite = true) : AtMost (x / m) (y / m) := by
  obtain ⟨a, b, ha, hb, rfl, rfl, hab⟩ := h
  obtain ⟨c, hc, rfl, hpos⟩ := hm
  have hb' : b < infinityRank := of_decide_eq_true hy
  have hc' : c < infinityRank := of_decide_eq_true hfinite
  exact ⟨_, _, nearestRank_le _ _, nearestRank_le _ _,
    div_unsigned (Nat.lt_of_le_of_lt hab hb') hc' hpos, div_unsigned hb' hc' hpos,
    nearestRank_mono (Nat.mul_le_mul_right _ (units_mono hab))⟩

/-- A finite number that is not zero, divided by itself. -/
theorem div_self_finite {b : Nat} {hb : b ≤ infinityRank} (hpos : 0 < b)
    (hfinite : b < infinityRank) : signed false b hb / signed false b hb = 1 := by
  rw [div_unsigned hfinite hfinite hpos, one_eq]
  refine signed_congr ?_
  have hnearest := nearestRank_units oneRank_lt (units_pos hpos)
  rwa [units_oneRank, Nat.mul_comm] at hnearest

theorem units_zero : units 0 = 0 := rfl

theorem pos_of_units_pos {b : Nat} (h : 0 < units b) : 0 < b := by
  refine Nat.pos_of_ne_zero fun hzero => ?_
  rw [hzero] at h
  exact Nat.lt_irrefl 0 h

theorem nearestRank_nothing {den : Nat} (hden : 0 < den) : nearestRank 0 den = 0 := by
  have hzero := nearestRank_units (show 0 < infinityRank by decide) hden
  rwa [units_zero, Nat.zero_mul] at hzero

/-! ## Sums -/

/-- A number without sign. -/
def Unsigned (x : Binary64) : Prop := ∃ rank h, x = signed false rank h

/-- The number in units, without regard to its sign. -/
def magnitude : Binary64 → Nat
  | nan => 0
  | signed _ rank _ => units rank

theorem Unsigned.ne_nan {x : Binary64} (h : Unsigned x) : x ≠ nan := by
  obtain ⟨rank, hrank, rfl⟩ := h
  exact nofun

theorem Unsigned.zero_le {x : Binary64} (h : Unsigned x) : le 0 x = true := by
  obtain ⟨rank, hrank, rfl⟩ := h
  exact (AtMost.bounds ⟨rank, rank, hrank, hrank, rfl, rfl, Nat.le_refl rank⟩).1

theorem AtMost.unsigned {x y : Binary64} (h : AtMost x y) : Unsigned x ∧ Unsigned y := by
  obtain ⟨a, b, ha, hb, rfl, rfl, -⟩ := h
  exact ⟨⟨a, ha, rfl⟩, b, hb, rfl⟩

/-- For numbers without sign, the order is that of their ranks. -/
theorem Unsigned.atMost {x y : Binary64} (hx : Unsigned x) (hy : Unsigned y) (h : le x y = true) :
    AtMost x y := by
  obtain ⟨a, ha, rfl⟩ := hx
  obtain ⟨b, hb, rfl⟩ := hy
  simp only [le, key, Bool.false_eq_true, if_false, decide_eq_true_eq] at h
  exact ⟨a, b, ha, hb, rfl, rfl, Int.ofNat_le.mp h⟩

theorem Unsigned.eq_of_same {x y : Binary64} (hx : Unsigned x) (hy : Unsigned y)
    (h : same x y = true) : x = y := by
  obtain ⟨a, ha, rfl⟩ := hx
  obtain ⟨b, hb, rfl⟩ := hy
  simp only [same, key, Bool.false_eq_true, if_false, beq_iff_eq] at h
  exact signed_congr (Int.ofNat_inj.mp h)

theorem Unsigned.mul {x y : Binary64} (hx : Unsigned x) (hy : Unsigned y)
    (hx' : x.isFinite = true) (hy' : y.isFinite = true) : Unsigned (x * y) := by
  obtain ⟨a, ha, rfl⟩ := hx
  obtain ⟨b, hb, rfl⟩ := hy
  rw [mul_signed_finite false (of_decide_eq_true hx') (of_decide_eq_true hy')]
  exact ⟨_, nearestRank_le _ _, rfl⟩

theorem AtMost.rank_le {a b : Nat} {ha : a ≤ infinityRank} {hb : b ≤ infinityRank}
    (h : AtMost (signed false a ha) (signed false b hb)) : a ≤ b := by
  obtain ⟨a', b', ha', hb', heq, heq', hle⟩ := h
  obtain ⟨-, rfl⟩ := signed.inj heq
  obtain ⟨-, rfl⟩ := signed.inj heq'
  exact hle

theorem le_addRank {a b : Nat} (ha : a ≤ infinityRank) (hb : b ≤ infinityRank) :
    a ≤ addRank a b ∧ b ≤ addRank a b := by
  by_cases hinf : a = infinityRank ∨ b = infinityRank
  · rw [addRank, if_pos hinf]
    exact ⟨ha, hb⟩
  · rw [addRank, if_neg hinf]
    obtain ⟨ha', hb'⟩ := not_or.mp hinf
    exact ⟨le_nearestRank (Nat.lt_of_le_of_ne ha ha') Nat.one_pos (by omega),
      le_nearestRank (Nat.lt_of_le_of_ne hb hb') Nat.one_pos (by omega)⟩

/-- How a sum of numbers without sign goes on from `acc`: it does not get less than what was added,
and each summand adds half a step to the error. The step is that at a rank that the sum does not
exceed. -/
theorem foldl_add_bounds (top : Nat) (htop : top < infinityRank) : ∀ (xs : List Binary64)
    {acc : Nat} (hacc : acc ≤ infinityRank), (∀ x ∈ xs, Unsigned x) →
    ∃ rank h, xs.foldl (· + ·) (signed false acc hacc) = signed false rank h
      ∧ acc ≤ rank ∧ (∀ x ∈ xs, AtMost x (signed false rank h))
      ∧ (rank ≤ top →
        2 * units rank ≤ 2 * (units acc + (xs.map magnitude).sum) + xs.length * step top
        ∧ 2 * (units acc + (xs.map magnitude).sum) ≤ 2 * units rank + xs.length * step top)
  | [], acc, hacc, _ => ⟨acc, hacc, rfl, Nat.le_refl _, by simp, fun _ => by simp⟩
  | x :: xs, acc, hacc, h => by
      obtain ⟨⟨b, hb, rfl⟩, hxs⟩ := List.forall_mem_cons.mp h
      obtain ⟨haccle, hble⟩ := le_addRank hacc hb
      obtain ⟨rank, hrank, hfold, hle, hmem, hbounds⟩ :=
        foldl_add_bounds top htop xs (addRank_le acc b) hxs
      refine ⟨rank, hrank, ?_, Nat.le_trans haccle hle, ?_, fun hranktop => ?_⟩
      · rw [List.foldl_cons, signed_add hacc hb, hfold]
      · exact List.forall_mem_cons.mpr
          ⟨⟨b, rank, hb, hrank, rfl, rfl, Nat.le_trans hble hle⟩, hmem⟩
      · obtain ⟨hupper, hlower⟩ := hbounds hranktop
        have hfinite : addRank acc b < infinityRank :=
          Nat.lt_of_le_of_lt (Nat.le_trans hle hranktop) htop
        have hadd : addRank acc b = nearestRank (units acc + units b) 1 := by
          unfold addRank at hfinite ⊢
          split at hfinite
          · exact absurd hfinite (Nat.lt_irrefl _)
          · rename_i hne
            rw [if_neg hne]
        have hnear := nearestRank_bounds Nat.one_pos
          (hadd ▸ Nat.le_trans hle hranktop) htop
        rw [← hadd] at hnear
        simp only [List.map_cons, List.sum_cons, List.length_cons, magnitude, Nat.succ_mul]
        omega

section

variable {xs : List Binary64} (h : ∀ x ∈ xs, Unsigned x)

include h

/-- No summand exceeds the sum. -/
theorem atMost_sum : ∀ x ∈ xs, AtMost x (sum xs) := by
  cases xs with
  | nil => exact fun x hx => absurd hx List.not_mem_nil
  | cons x xs =>
      obtain ⟨⟨a, ha, rfl⟩, hxs⟩ := List.forall_mem_cons.mp h
      obtain ⟨rank, hrank, hfold, hle, hmem, -⟩ := foldl_add_bounds 0 (by decide) xs ha hxs
      have hsum : sum (signed false a ha :: xs) = signed false rank hrank := by
        rw [sum, List.foldl_cons, negativeZero_add_signed, hfold]
      rw [hsum]
      exact List.forall_mem_cons.mpr ⟨⟨a, rank, ha, hrank, rfl, rfl, hle⟩, hmem⟩

/-- A finite sum differs from the exact one by half a step for each summand at most. -/
theorem sum_bounds {rank : Nat} {hrank : rank ≤ infinityRank} (hne : xs ≠ [])
    (hsum : sum xs = signed false rank hrank) (hfinite : rank < infinityRank) :
    2 * units rank ≤ 2 * (xs.map magnitude).sum + xs.length * step rank
      ∧ 2 * (xs.map magnitude).sum ≤ 2 * units rank + xs.length * step rank := by
  obtain ⟨x, xs, rfl⟩ := List.exists_cons_of_ne_nil hne
  obtain ⟨⟨a, ha, rfl⟩, hxs⟩ := List.forall_mem_cons.mp h
  obtain ⟨r, hr, hfold, -, -, hbounds⟩ := foldl_add_bounds rank hfinite xs ha hxs
  rw [sum, List.foldl_cons, negativeZero_add_signed, hfold] at hsum
  obtain ⟨-, rfl⟩ := signed.inj hsum
  obtain ⟨hupper, hlower⟩ := hbounds (Nat.le_refl _)
  simp only [List.map_cons, List.sum_cons, List.length_cons, magnitude, Nat.succ_mul]
  omega

end

theorem AtMost.magnitude_le {x y : Binary64} (h : AtMost x y) : x.magnitude ≤ y.magnitude := by
  obtain ⟨a, b, ha, hb, rfl, rfl, hab⟩ := h
  exact units_mono hab

/-- Sums of a list in two ways: what one summand misses, the exact sum does. -/
theorem sum_add_le {α : Type} {u v : α → Nat} : ∀ {xs : List α}, (∀ a ∈ xs, u a ≤ v a) →
    (xs.map u).sum ≤ (xs.map v).sum
      ∧ ∀ a ∈ xs, (xs.map u).sum + v a ≤ (xs.map v).sum + u a
  | [], _ => by simp
  | x :: xs, h => by
      obtain ⟨hx, hxs⟩ := List.forall_mem_cons.mp h
      obtain ⟨hsum, hmem⟩ := sum_add_le hxs
      simp only [List.map_cons, List.sum_cons]
      refine ⟨Nat.add_le_add hx hsum, List.forall_mem_cons.mpr ⟨by omega, fun a ha => ?_⟩⟩
      have := hmem a ha
      omega

/-- If two sums are rounded to the same number, no summand misses more than a step for each of
them. -/
theorem missing_le_of_equal_sums {α : Type} {f g : α → Binary64} {xs : List α} {top : Nat}
    {htop : top ≤ infinityRank} (h : ∀ a ∈ xs, AtMost (f a) (g a)) (hfinite : top < infinityRank)
    (hf : sum (xs.map f) = signed false top htop) (hg : sum (xs.map g) = signed false top htop) :
    ∀ a ∈ xs, (g a).magnitude ≤ (f a).magnitude + xs.length * step top := by
  intro a ha
  have hne : ∀ u : α → Binary64, xs.map u ≠ [] := fun u =>
    mt List.map_eq_nil_iff.mp (List.ne_nil_of_mem ha)
  obtain ⟨hupper, -⟩ := sum_bounds
    (List.forall_mem_map.mpr fun a ha => (h a ha).unsigned.1) (hne f) hf hfinite
  obtain ⟨-, hlower⟩ := sum_bounds
    (List.forall_mem_map.mpr fun a ha => (h a ha).unsigned.2) (hne g) hg hfinite
  have hmissing := (sum_add_le fun a ha => (h a ha).magnitude_le).2 a ha
  simp only [List.map_map, List.length_map, Function.comp_def] at hupper hlower
  omega

/-! ## Quotients of small numbers -/

/-- The greatest denominator of a small quotient. -/
def smallDen : Nat := 2 ^ 22

/-- A quotient of natural numbers between nothing and the whole. -/
def SmallQuotient (x : Binary64) : Prop :=
  ∃ s n, s ≤ n ∧ 1 ≤ n ∧ n ≤ smallDen ∧ x = ofNat s / ofNat n

theorem pow_dvd_unitsPerOne {k : Nat} (h : k ≤ 1074) : 2 ^ k ∣ unitsPerOne := by
  have hpow : ∀ i, k ≤ i → 52 ≤ i → (i - 51) * binade = oneRank → 2 ^ k ∣ units oneRank := by
    intro i hk hi hrank
    rw [← hrank, units_pow hi]
    exact Nat.pow_dvd_pow 2 hk
  rw [← units_oneRank]
  exact hpow 1074 h (by decide) (by decide)

theorem pow_mul_unitsPerOne_lt : 2 ^ 53 * unitsPerOne < units infinityRank := by decide +kernel

/-- Natural numbers of at most 53 bits are numbers of the format. -/
theorem ofNat_exact {n : Nat} (h : n < 2 ^ 53) :
    ∃ rank hrank, ofNat n = signed false rank hrank ∧ rank < infinityRank
      ∧ units rank = n * unitsPerOne := by
  have hlog : (n * unitsPerOne).log2 - 52 ≤ 1074 := by
    by_cases hzero : n * unitsPerOne = 0
    · simp [hzero, Nat.log2_zero]
    · have hlt : n * unitsPerOne < 2 ^ 1127 := by
        calc n * unitsPerOne < 2 ^ 53 * unitsPerOne :=
              Nat.mul_lt_mul_of_pos_right h unitsPerOne_pos
          _ = 2 ^ 1127 := by decide +kernel
      have := (Nat.log2_lt hzero).mpr hlt
      omega
  have hdvd : 2 ^ ((n * unitsPerOne).log2 - 52) ∣ n * unitsPerOne :=
    Nat.dvd_mul_left_of_dvd (pow_dvd_unitsPerOne hlog) n
  have hunits : units (floorRank (n * unitsPerOne)) = n * unitsPerOne := by
    rw [(units_floorRank _).1, Nat.div_mul_cancel hdvd]
  have hfinite : floorRank (n * unitsPerOne) < infinityRank := by
    refine lt_infinityRank_of_units_lt ?_
    rw [hunits]
    exact Nat.lt_of_le_of_lt (Nat.mul_le_mul_right _ (Nat.le_of_lt h)) pow_mul_unitsPerOne_lt
  refine ⟨floorRank (n * unitsPerOne), Nat.le_of_lt hfinite, signed_congr ?_, hfinite, hunits⟩
  have hnearest := nearestRank_units hfinite Nat.one_pos
  rwa [hunits, Nat.mul_one] at hnearest

/-- A natural number of not too many bits is finite in the format, exact or not. -/
theorem ofNat_finite {n k : Nat} (hk : k < 1024) (h : n ≤ 2 ^ k) :
    ∃ rank hrank, ofNat n = signed false rank hrank ∧ rank < infinityRank := by
  have hrank : (1074 + k - 51) * binade < infinityRank :=
    Nat.mul_lt_mul_of_pos_right (by omega) binade_pos
  refine ⟨_, nearestRank_le _ _, ofNat_eq n, Nat.lt_of_le_of_lt ?_ hrank⟩
  refine nearestRank_le_rank hrank Nat.one_pos ?_
  calc n * unitsPerOne ≤ 2 ^ k * unitsPerOne := Nat.mul_le_mul_right _ h
    _ = units oneRank * 2 ^ k := by rw [units_oneRank, Nat.mul_comm]
    _ = units ((1074 + k - 51) * binade) * 1 := by
      rw [Nat.mul_one, units_mul_pow (by decide)]
      rfl

theorem ofNat_div_self {n k : Nat} (hpos : 0 < n) (hk : k < 1024) (h : n ≤ 2 ^ k) :
    ofNat n / ofNat n = 1 := by
  obtain ⟨rank, hrank, hn, hfinite⟩ := ofNat_finite hk h
  rw [hn]
  refine div_self_finite (Nat.pos_of_ne_zero fun hzero => ?_) hfinite
  have hsame : nearestRank (n * unitsPerOne) 1 = rank := (Binary64.signed.inj hn).2
  have := nearestRank_pos (Nat.mul_pos hpos unitsPerOne_pos)
  omega

/-- A quotient of natural numbers of at most 53 bits is a number. -/
theorem ofNat_div_share_of_lt {s n : Nat} (hle : s ≤ n) (hpos : 0 < n) (hn : n < 2 ^ 53) :
    Share (ofNat s / ofNat n) := by
  obtain ⟨a, ha, hs, hafinite, -⟩ := ofNat_exact (Nat.lt_of_le_of_lt hle hn)
  obtain ⟨b, hb, hn', hbfinite, hbunits⟩ := ofNat_exact hn
  have hbpos := pos_of_units_pos (hbunits ▸ Nat.mul_pos hpos unitsPerOne_pos)
  have hshare := ofNat_div_share hle hpos
  rw [hs, hn', div_unsigned hafinite hbfinite hbpos] at hshare ⊢
  exact hshare.resolve_left nofun

/-- So it is where the denominator is exceeded. -/
theorem ofNat_div_unsigned {s n : Nat} (hs : s < 2 ^ 53) (hpos : 0 < n) (hn : n < 2 ^ 53) :
    Unsigned (ofNat s / ofNat n) ∧ (ofNat s / ofNat n).isFinite = true := by
  obtain ⟨a, ha, hs', hafinite, -⟩ := ofNat_exact hs
  obtain ⟨b, hb, hn', hbfinite, hbunits⟩ := ofNat_exact hn
  have hbpos : 0 < units b := hbunits ▸ Nat.mul_pos hpos unitsPerOne_pos
  have hle : nearestRank (units a * unitsPerOne) (units b) ≤ a := by
    refine nearestRank_le_rank hafinite hbpos (Nat.mul_le_mul_left _ ?_)
    rw [hbunits]
    exact Nat.le_mul_of_pos_left _ hpos
  rw [hs', hn', div_unsigned hafinite hbfinite (pos_of_units_pos hbpos)]
  exact ⟨⟨_, nearestRank_le _ _, rfl⟩, decide_eq_true (Nat.lt_of_le_of_lt hle hafinite)⟩

/-- It is one only if they are the same. -/
theorem ofNat_div_eq_one_iff {s n : Nat} (hle : s ≤ n) (hpos : 0 < n) (hn : n < 2 ^ 53) :
    ofNat s / ofNat n = 1 ↔ s = n := by
  constructor
  · intro hone
    obtain ⟨a, ha, hs, hafinite, haunits⟩ := ofNat_exact (Nat.lt_of_le_of_lt hle hn)
    obtain ⟨b, hb, hn', hbfinite, hbunits⟩ := ofNat_exact hn
    by_contra hne
    have hlt : a < b := by
      by_contra hge
      have hunits := units_mono (Nat.le_of_not_lt hge)
      rw [haunits, hbunits] at hunits
      have := Nat.le_of_mul_le_mul_right hunits unitsPerOne_pos
      omega
    rw [hs, hn', div_unsigned hafinite hbfinite (Nat.zero_lt_of_lt hlt), one_eq] at hone
    exact Nat.ne_of_lt (nearestRank_quotient_lt hlt) (Binary64.signed.inj hone).2
  · rintro rfl
    exact ofNat_div_self hpos (by decide) (Nat.le_of_lt hn)

theorem lt_pow_of_le_smallDen {n : Nat} (h : n ≤ smallDen) : n < 2 ^ 53 :=
  Nat.lt_of_le_of_lt h (by decide)

/-- The ranks of the least small quotient that is not zero, and of the greatest that is not one. -/
def leastQuotientRank : Nat := 1001 * binade

def belowOneRank : Nat := oneRank - 2 ^ 31

theorem units_leastQuotientRank : units leastQuotientRank * smallDen = unitsPerOne := by
  decide +kernel

theorem units_belowOneRank : units belowOneRank * smallDen = (smallDen - 1) * unitsPerOne := by
  decide +kernel

theorem mul_den_le {s n den : Nat} (hlt : s < n) (hn : n ≤ den) : s * den ≤ (den - 1) * n := by
  have hnext := Nat.mul_le_mul_right den hlt
  rw [Nat.succ_mul] at hnext
  rw [Nat.sub_mul, Nat.one_mul, Nat.mul_comm den n]
  omega

/-- A quotient that is less than one is at most the number that is less by one part in `den`, where
this is a number of the format. -/
theorem quotient_le {s n den below : Nat} (hbelow : units below * den = (den - 1) * unitsPerOne)
    (hfinite : below < infinityRank) (hlt : s < n) (hn : n ≤ den) :
    nearestRank (s * unitsPerOne * unitsPerOne) (n * unitsPerOne) ≤ below := by
  have hpos : 0 < n * unitsPerOne := Nat.mul_pos (Nat.zero_lt_of_lt hlt) unitsPerOne_pos
  have hden : 0 < den := Nat.lt_of_lt_of_le (Nat.zero_lt_of_lt hlt) hn
  refine nearestRank_le_rank hfinite hpos (Nat.le_of_mul_le_mul_right ?_ hden)
  calc s * unitsPerOne * unitsPerOne * den
      = s * den * (unitsPerOne * unitsPerOne) := by ring
    _ ≤ (den - 1) * n * (unitsPerOne * unitsPerOne) :=
        Nat.mul_le_mul_right _ (mul_den_le hlt hn)
    _ = (den - 1) * unitsPerOne * (n * unitsPerOne) := by ring
    _ = units below * (n * unitsPerOne) * den := by
        rw [← hbelow]
        ring

/-- A quotient that is more than nothing is at least one part in `den`, where this is a number of
the format. -/
theorem le_quotient {s n den least : Nat} (hleast : units least * den = unitsPerOne)
    (hfinite : least < infinityRank) (hs : 0 < s) (hpos : 0 < n) (hn : n ≤ den) :
    least ≤ nearestRank (s * unitsPerOne * unitsPerOne) (n * unitsPerOne) := by
  refine le_nearestRank hfinite (Nat.mul_pos hpos unitsPerOne_pos) ?_
  calc units least * (n * unitsPerOne)
      ≤ units least * (den * unitsPerOne) :=
        Nat.mul_le_mul_left _ (Nat.mul_le_mul_right _ hn)
    _ = unitsPerOne * unitsPerOne := by rw [← Nat.mul_assoc, hleast]
    _ ≤ s * unitsPerOne * unitsPerOne := Nat.mul_le_mul_right _ (Nat.le_mul_of_pos_left _ hs)

theorem SmallQuotient.cases {x : Binary64} (h : SmallQuotient x) :
    x = 1 ∨ ∃ rank hrank, x = signed false rank hrank ∧ rank ≤ belowOneRank
      ∧ (rank = 0 ∨ leastQuotientRank ≤ rank) := by
  obtain ⟨s, n, hle, hone, hsmall, rfl⟩ := h
  obtain ⟨a, ha, hs, hafinite, haunits⟩ :=
    ofNat_exact (lt_pow_of_le_smallDen (Nat.le_trans hle hsmall))
  obtain ⟨b, hb, hn, hbfinite, hbunits⟩ := ofNat_exact (lt_pow_of_le_smallDen hsmall)
  have hbpos : 0 < units b := hbunits ▸ Nat.mul_pos hone unitsPerOne_pos
  have hbrank := pos_of_units_pos hbpos
  rcases Nat.lt_or_eq_of_le hle with hlt | rfl
  · right
    rw [hs, hn, div_unsigned hafinite hbfinite hbrank]
    refine ⟨_, nearestRank_le _ _, rfl, ?_, ?_⟩
    · rw [haunits, hbunits]
      exact quotient_le units_belowOneRank (by decide) hlt hsmall
    · rcases Nat.eq_zero_or_pos s with rfl | hspos
      · left
        rw [haunits, Nat.zero_mul, Nat.zero_mul]
        exact nearestRank_nothing hbpos
      · right
        rw [haunits, hbunits]
        exact le_quotient units_leastQuotientRank (by decide) hspos hone hsmall
  · left
    rw [hn]
    exact div_self_finite hbrank hbfinite

/-! ## Parts of a number -/

/-- A part of a number: not more than the whole, the whole or visibly less, and nothing or visibly
more. -/
def PartOf (i : Nat) (x y : Binary64) : Prop :=
  ∃ a c ha hc, y = signed false a ha ∧ x = signed false c hc ∧ c ≤ a
    ∧ (c = 0 ∨ 2 ^ i ≤ units c) ∧ (c = a ∨ 2 ^ 23 * units c ≤ (2 ^ 23 - 1) * units a)

/-- A number that is not less than one part in `2 ^ k` leaves much of another one. -/
theorem pow_le_units_mul {i k c r : Nat} (hi : 52 ≤ i) (hc : c < infinityRank)
    (hleast : 2 ^ (i + k) ≤ units c) (hr : unitsPerOne ≤ units r * 2 ^ k) :
    2 ^ i ≤ units (nearestRank (units c * units r) unitsPerOne) := by
  have hpow : 2 ^ i ≤ units c :=
    Nat.le_trans (Nat.pow_le_pow_right (by decide) (Nat.le_add_right i k)) hleast
  have hfinite : (i - 51) * binade < infinityRank := by
    refine lt_infinityRank_of_units_lt ?_
    rw [units_pow hi]
    exact Nat.lt_of_le_of_lt hpow (units_lt_units hc)
  rw [← units_pow hi]
  refine units_mono (le_nearestRank hfinite unitsPerOne_pos ?_)
  calc units ((i - 51) * binade) * unitsPerOne
      ≤ 2 ^ i * (units r * 2 ^ k) := by
        rw [units_pow hi]
        exact Nat.mul_le_mul_left _ hr
    _ = 2 ^ (i + k) * units r := by ring
    _ ≤ units c * units r := Nat.mul_le_mul_right _ hleast

/-- A small quotient other than one takes more of a number than rounding gives back. -/
theorem units_mul_le {c r : Nat} (hnormal : binade ≤ c) (hc : c < infinityRank)
    (hless : nearestRank (units c * units r) unitsPerOne ≤ c) (hr : r ≤ belowOneRank) :
    2 ^ 23 * units (nearestRank (units c * units r) unitsPerOne) ≤ (2 ^ 23 - 1) * units c := by
  obtain ⟨-, hnear⟩ := nearestRank_bounds unitsPerOne_pos hless hc
  generalize units (nearestRank (units c * units r) unitsPerOne) = product at hnear ⊢
  have hstep : smallDen * step c ≤ units c :=
    Nat.le_trans (Nat.mul_le_mul_right _ (by decide)) (step_le_units hnormal)
  have hquotient : units r * smallDen ≤ (smallDen - 1) * unitsPerOne := by
    rw [← units_belowOneRank]
    exact Nat.mul_le_mul_right _ (units_mono hr)
  have hrest : 2 * (smallDen - 1) + 1 = 2 ^ 23 - 1 := by decide
  refine Nat.le_of_mul_le_mul_right ?_ unitsPerOne_pos
  calc 2 ^ 23 * product * unitsPerOne
      = smallDen * (2 * (product * unitsPerOne)) := by rw [smallDen]; ring
    _ ≤ smallDen * (2 * (units c * units r) + step c * unitsPerOne) :=
        Nat.mul_le_mul_left _ hnear
    _ = 2 * units c * (units r * smallDen) + smallDen * step c * unitsPerOne := by ring
    _ ≤ 2 * units c * ((smallDen - 1) * unitsPerOne) + units c * unitsPerOne :=
        Nat.add_le_add (Nat.mul_le_mul_left _ hquotient) (Nat.mul_le_mul_right _ hstep)
    _ = (2 * (smallDen - 1) + 1) * units c * unitsPerOne := by ring
    _ = (2 ^ 23 - 1) * units c * unitsPerOne := by rw [hrest]

theorem PartOf.mul {i : Nat} {x y q : Binary64} (h : PartOf (i + 22) x y) (hi : 52 ≤ i)
    (hfinite : y.isFinite = true) (hq : SmallQuotient q) : PartOf i (x * q) y := by
  obtain ⟨a, c, ha, hc, rfl, rfl, hle, hleast, hmost⟩ := h
  have hafinite : a < infinityRank := of_decide_eq_true hfinite
  have hcfinite := Nat.lt_of_le_of_lt hle hafinite
  rcases hq.cases with rfl | ⟨r, hr, rfl, hbelow, hzero⟩
  · rw [mul_one_finite hcfinite]
    refine ⟨a, c, ha, hc, rfl, rfl, hle, hleast.imp_right fun h => ?_, hmost⟩
    exact Nat.le_trans (Nat.pow_le_pow_right (by decide) (Nat.le_add_right i 22)) h
  · have hrfinite : r < infinityRank := Nat.lt_of_le_of_lt hbelow (by decide)
    have hone : units r ≤ unitsPerOne := by
      rw [← units_oneRank]
      exact units_mono (Nat.le_trans hbelow (by decide))
    have hless : nearestRank (units c * units r) unitsPerOne ≤ c :=
      nearestRank_le_rank hcfinite unitsPerOne_pos (Nat.mul_le_mul_left _ hone)
    rw [mul_signed_finite false hcfinite hrfinite]
    refine ⟨a, _, ha, nearestRank_le _ _, rfl, rfl, Nat.le_trans hless hle, ?_, ?_⟩
    · rcases hleast with rfl | hleast
      · exact Or.inl (Nat.le_zero.mp hless)
      · rcases hzero with rfl | hquotient
        · left
          rw [units_zero, Nat.mul_zero]
          exact nearestRank_nothing unitsPerOne_pos
        · refine Or.inr (pow_le_units_mul hi hcfinite hleast ?_)
          rw [← units_leastQuotientRank]
          exact Nat.mul_le_mul_right _ (units_mono hquotient)
    · rcases hleast with rfl | hleast
      · right
        rw [Nat.le_zero.mp hless]
        exact Nat.zero_le _
      · right
        have hnormal : binade ≤ c := by
          refine Nat.le_of_not_lt fun hlt => ?_
          have hpow : 2 ^ 52 ≤ 2 ^ (i + 22) := Nat.pow_le_pow_right (by decide) (by omega)
          rw [units_of_lt hlt] at hleast
          exact Nat.not_lt.mpr (Nat.le_trans hpow hleast) hlt
        calc 2 ^ 23 * units (nearestRank (units c * units r) unitsPerOne)
            ≤ (2 ^ 23 - 1) * units c := units_mul_le hnormal hcfinite hless hbelow
          _ ≤ (2 ^ 23 - 1) * units a := Nat.mul_le_mul_left _ (units_mono hle)

end Binary64

end Gapfill
