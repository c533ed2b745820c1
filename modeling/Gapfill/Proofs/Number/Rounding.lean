import Mathlib.Algebra.Group.Nat.Defs
import Mathlib.Tactic.Ring
import Gapfill.Number.Binary64

/-!
# Rounding keeps the order

Ranks number the format in increasing order, so whatever is said of the order
after rounding is said of natural numbers. Two facts carry it. A rank is
recovered from its units (`nearestRank_units`), and rounding is monotone
(`nearestRank_mono`). What is rounded from below a number of the format stays
below it; that is all that grading needs to know of products and quotients with
shares.
-/

namespace Gapfill

namespace Binary64

/-! ## Units -/

theorem binade_eq : binade = 2 ^ 52 := rfl

theorem binade_pos : 0 < binade := by decide

theorem units_of_lt {rank : Nat} (h : rank < binade) : units rank = rank := if_pos h

/-- A number with an exponent, in units. -/
theorem units_normal {e m : Nat} (hm : m < binade) :
    units ((e + 1) * binade + m) = (binade + m) * 2 ^ e := by
  have hmod : ((e + 1) * binade + m) % binade = m := by
    rw [Nat.mul_comm, Nat.mul_add_mod, Nat.mod_eq_of_lt hm]
  have hdiv : ((e + 1) * binade + m) / binade = e + 1 := by
    rw [Nat.mul_comm, Nat.mul_add_div binade_pos, Nat.div_eq_of_lt hm]
  have hle : ¬ (e + 1) * binade + m < binade := by
    rw [Nat.succ_mul]
    omega
  rw [units, if_neg hle, hmod, hdiv]
  rfl

theorem exists_normal {rank : Nat} (h : binade ≤ rank) :
    ∃ e m, m < binade ∧ rank = (e + 1) * binade + m := by
  refine ⟨rank / binade - 1, rank % binade, Nat.mod_lt _ binade_pos, ?_⟩
  have hdiv := Nat.div_pos h binade_pos
  rw [Nat.sub_add_cancel hdiv, Nat.mul_comm, Nat.div_add_mod]

/-- How far the number of a rank is from the next one, in units. -/
def step (rank : Nat) : Nat := 2 ^ (rank / binade - 1)

theorem step_pos (rank : Nat) : 0 < step rank := Nat.two_pow_pos _

theorem step_mono {a b : Nat} (h : a ≤ b) : step a ≤ step b :=
  Nat.pow_le_pow_right (by decide) (Nat.sub_le_sub_right (Nat.div_le_div_right h) 1)

theorem step_of_lt {rank : Nat} (h : rank < binade) : step rank = 1 := by
  rw [step, Nat.div_eq_of_lt h]
  rfl

theorem step_normal {e m : Nat} (hm : m < binade) : step ((e + 1) * binade + m) = 2 ^ e := by
  rw [step, Nat.mul_comm, Nat.mul_add_div binade_pos, Nat.div_eq_of_lt hm, Nat.add_zero,
    Nat.add_sub_cancel]

theorem units_succ (rank : Nat) : units (rank + 1) = units rank + step rank := by
  by_cases hlow : rank + 1 < binade
  · have hrank := Nat.lt_of_succ_lt hlow
    rw [units_of_lt hlow, units_of_lt hrank, step_of_lt hrank]
  · by_cases hedge : rank < binade
    · have heq : rank + 1 = (0 + 1) * binade + 0 := by omega
      rw [units_of_lt hedge, step_of_lt hedge, heq, units_normal binade_pos]
      omega
    · obtain ⟨e, m, hm, rfl⟩ := exists_normal (Nat.le_of_not_lt hedge)
      rw [units_normal hm, step_normal hm]
      by_cases hcarry : m + 1 < binade
      · rw [Nat.add_assoc, units_normal hcarry]
        ring
      · -- the fraction is full, and the next number has the next exponent
        have hfull : binade = m + 1 := by omega
        have heq : (e + 1) * binade + m + 1 = (e + 1 + 1) * binade + 0 := by
          rw [Nat.succ_mul (e + 1)]
          omega
        rw [heq, units_normal binade_pos, hfull]
        ring

theorem units_lt_succ (rank : Nat) : units rank < units (rank + 1) :=
  units_succ rank ▸ Nat.lt_add_of_pos_right (step_pos rank)

theorem units_mono {a b : Nat} (h : a ≤ b) : units a ≤ units b := by
  induction h with
  | refl => exact Nat.le_refl _
  | step _ ih => exact Nat.le_trans ih (Nat.le_of_lt (units_lt_succ _))

theorem units_lt_units {a b : Nat} (h : a < b) : units a < units b :=
  Nat.lt_of_lt_of_le (units_lt_succ a) (units_mono h)

theorem units_pos {rank : Nat} (h : 0 < rank) : 0 < units rank :=
  Nat.lt_of_le_of_lt (Nat.zero_le _) (units_lt_units h)

theorem lt_infinityRank_of_units_lt {rank : Nat} (h : units rank < units infinityRank) :
    rank < infinityRank :=
  Nat.lt_of_not_le fun hle => Nat.not_lt.mpr (units_mono hle) h

/-! ## Ranks -/

/-- What is kept of a number when its last bits are cut off. -/
theorem floor_bounds (n : Nat) :
    n / 2 ^ (n.log2 - 52) < 2 * binade
      ∧ (0 < n.log2 - 52 → binade ≤ n / 2 ^ (n.log2 - 52)) := by
  constructor
  · rw [Nat.div_lt_iff_lt_mul (Nat.two_pow_pos _), binade_eq]
    refine Nat.lt_of_lt_of_le Nat.lt_log2_self ?_
    rw [← Nat.pow_succ', ← Nat.pow_add]
    exact Nat.pow_le_pow_right (by decide) (by omega)
  · intro hshift
    have hne : n ≠ 0 := by
      rintro rfl
      simp [Nat.log2_zero] at hshift
    rw [Nat.le_div_iff_mul_le (Nat.two_pow_pos _), binade_eq, ← Nat.pow_add]
    exact Nat.le_trans (Nat.pow_le_pow_right (by decide) (by omega)) (Nat.log2_self_le hne)

theorem floorRank_mono {n m : Nat} (h : n ≤ m) : floorRank n ≤ floorRank m := by
  have hlog : n.log2 ≤ m.log2 := by
    by_cases hn : n = 0
    · simp [hn, Nat.log2_zero]
    · exact (Nat.le_log2 (by omega)).mpr (Nat.le_trans (Nat.log2_self_le hn) h)
  obtain ⟨hn, -⟩ := floor_bounds n
  obtain ⟨-, hm⟩ := floor_bounds m
  unfold floorRank
  dsimp only
  by_cases hshift : n.log2 - 52 = m.log2 - 52
  · rw [hshift]
    exact Nat.add_le_add_left (Nat.div_le_div_right h) _
  · -- a longer number has a greater exponent
    have hlt : n.log2 - 52 + 1 ≤ m.log2 - 52 := by omega
    have hmul := Nat.mul_le_mul_right binade hlt
    have hm := hm (by omega)
    rw [Nat.succ_mul] at hmul
    change (n.log2 - 52) * binade + n / 2 ^ (n.log2 - 52)
      ≤ (m.log2 - 52) * binade + m / 2 ^ (m.log2 - 52)
    omega

/-- A rank is recovered from the number of its units. -/
theorem floorRank_units (rank : Nat) : floorRank (units rank) = rank := by
  unfold floorRank
  dsimp only
  by_cases hlow : rank < binade
  · rw [units_of_lt hlow]
    have hshift : rank.log2 - 52 = 0 := by
      by_cases hzero : rank = 0
      · simp [hzero, Nat.log2_zero]
      · have := (Nat.log2_lt hzero).mpr (binade_eq ▸ hlow)
        omega
    rw [hshift]
    simp
  · obtain ⟨e, m, hm, rfl⟩ := exists_normal (Nat.le_of_not_lt hlow)
    rw [units_normal hm]
    have hlog : ((binade + m) * 2 ^ e).log2 = 52 + e := by
      have hpos : 0 < (binade + m) * 2 ^ e :=
        Nat.mul_pos (Nat.add_pos_left binade_pos m) (Nat.two_pow_pos e)
      rw [Nat.log2_eq_iff (Nat.ne_of_gt hpos)]
      constructor
      · rw [Nat.pow_add, ← binade_eq]
        exact Nat.mul_le_mul_right _ (Nat.le_add_right _ _)
      · rw [show 52 + e + 1 = 52 + 1 + e by omega, Nat.pow_add, Nat.pow_succ, ← binade_eq]
        exact Nat.mul_lt_mul_of_pos_right (by omega) (Nat.two_pow_pos e)
    rw [hlog, Nat.add_sub_cancel_left]
    change e * binade + (binade + m) * 2 ^ e / 2 ^ e = _
    rw [Nat.mul_div_cancel _ (Nat.two_pow_pos e), Nat.succ_mul]
    omega

/-! ## Rounding -/

theorem le_roundAt (low : Nat) (o : Ordering) : low ≤ roundAt low o := by
  cases o <;> simp only [roundAt] <;> (try split) <;> omega

theorem nearestRank_mono {num num' den : Nat} (h : num ≤ num') :
    nearestRank num den ≤ nearestRank num' den := by
  have hfloor : floorRank (num / den) ≤ floorRank (num' / den) :=
    floorRank_mono (Nat.div_le_div_right h)
  unfold nearestRank
  dsimp only
  by_cases hlow : min (floorRank (num / den)) (infinityRank - 1)
      = min (floorRank (num' / den)) (infinityRank - 1)
  · -- both lie between the same two numbers
    rw [hlow]
    generalize (units _ + units _) * den = middle
    rcases Nat.lt_trichotomy (2 * num) middle with hlt | heq | hgt
    · rw [Nat.compare_eq_lt.mpr hlt]
      exact le_roundAt _ _
    · rcases Nat.lt_or_eq_of_le (Nat.mul_le_mul_left 2 h) with hlt' | heq'
      · have hgt : middle < 2 * num' := by rwa [← heq]
        rw [Nat.compare_eq_gt.mpr hgt]
        exact roundAt_le _ _
      · exact Nat.le_of_eq (by rw [heq'])
    · have hgt' := Nat.lt_of_lt_of_le hgt (Nat.mul_le_mul_left 2 h)
      exact Nat.le_of_eq (by rw [Nat.compare_eq_gt.mpr hgt, Nat.compare_eq_gt.mpr hgt'])
  · refine Nat.le_trans (roundAt_le _ _) (Nat.le_trans ?_ (le_roundAt _ _))
    omega

/-- A number of the format is rounded to itself. -/
theorem nearestRank_units {rank den : Nat} (hrank : rank < infinityRank) (hden : 0 < den) :
    nearestRank (units rank * den) den = rank := by
  unfold nearestRank
  dsimp only
  rw [Nat.mul_div_cancel _ hden, floorRank_units, Nat.min_eq_left (Nat.le_sub_one_of_lt hrank)]
  have hlt : 2 * (units rank * den) < (units rank + units (rank + 1)) * den := by
    rw [← Nat.mul_assoc]
    have := units_lt_succ rank
    exact Nat.mul_lt_mul_of_pos_right (by omega) hden
  rw [Nat.compare_eq_lt.mpr hlt]
  rfl

/-- What is not below a number of the format is not rounded below it. -/
theorem le_nearestRank {rank num den : Nat} (hrank : rank < infinityRank) (hden : 0 < den)
    (h : units rank * den ≤ num) : rank ≤ nearestRank num den := by
  calc rank = nearestRank (units rank * den) den := (nearestRank_units hrank hden).symm
    _ ≤ nearestRank num den := nearestRank_mono h

/-- What is not above a number of the format is not rounded above it. -/
theorem nearestRank_le_rank {rank num den : Nat} (hrank : rank < infinityRank) (hden : 0 < den)
    (h : num ≤ units rank * den) : nearestRank num den ≤ rank := by
  calc nearestRank num den ≤ nearestRank (units rank * den) den := nearestRank_mono h
    _ = rank := nearestRank_units hrank hden

/-! ## Shares -/

/-- The rank of one. -/
def oneRank : Nat := 1023 * binade

theorem units_oneRank : units oneRank = unitsPerOne := by decide +kernel

theorem oneRank_pos : 0 < oneRank := by decide

theorem oneRank_lt : oneRank < infinityRank := by decide

theorem unitsPerOne_pos : 0 < unitsPerOne := units_oneRank ▸ units_pos oneRank_pos

theorem signed_congr {negative : Bool} {a b : Nat} {ha : a ≤ infinityRank}
    {hb : b ≤ infinityRank} (h : a = b) : signed negative a ha = signed negative b hb := by
  subst h
  rfl

theorem one_eq : (1 : Binary64) = signed false oneRank (Nat.le_of_lt oneRank_lt) := by
  refine signed_congr ?_
  rw [Nat.one_mul, ← units_oneRank, ← Nat.mul_one (units oneRank)]
  exact nearestRank_units oneRank_lt Nat.one_pos

theorem nearestRank_zero : nearestRank 0 1 = 0 := by
  have hzero := nearestRank_units (Nat.lt_trans oneRank_pos oneRank_lt) Nat.one_pos
  rwa [units_of_lt binade_pos, Nat.zero_mul] at hzero

theorem zero_eq : (0 : Binary64) = signed false 0 (Nat.zero_le _) := by
  refine signed_congr ?_
  rw [Nat.zero_mul, nearestRank_zero]

theorem add_eq (x y : Binary64) : x + y = add x y := rfl

theorem mul_eq (x y : Binary64) : x * y = mul x y := rfl

theorem div_eq (x y : Binary64) : x / y = div x y := rfl

theorem nearest_eq (negative : Bool) (num den : Nat) :
    nearest negative num den = signed negative (nearestRank num den) (nearestRank_le num den) := rfl

/-- A number between zero and one, and not the negative zero. -/
def Share (x : Binary64) : Prop := ∃ rank h, x = signed false rank h ∧ rank ≤ oneRank

theorem share_zero : Share 0 := ⟨0, Nat.zero_le _, zero_eq, Nat.zero_le _⟩

theorem share_one : Share 1 := ⟨oneRank, _, one_eq, Nat.le_refl _⟩

theorem Share.ne_nan {x : Binary64} (h : Share x) : x ≠ nan := by
  obtain ⟨rank, hrank, rfl, -⟩ := h
  exact nofun

/-- The product of a number without sign and another one has the sign of the other. -/
theorem mul_signed_finite {a b : Nat} {ha : a ≤ infinityRank} {hb : b ≤ infinityRank} (s : Bool)
    (ha' : a < infinityRank) (hb' : b < infinityRank) :
    signed false a ha * signed s b hb =
      signed s (nearestRank (units a * units b) unitsPerOne) (nearestRank_le _ _) := by
  rw [mul_eq, mul, if_neg (by simp [Nat.ne_of_lt ha', Nat.ne_of_lt hb']), nearest_eq,
    Bool.false_bne]

theorem mul_one_finite {c : Nat} {hc : c ≤ infinityRank} (h : c < infinityRank) :
    signed false c hc * 1 = signed false c hc := by
  rw [one_eq, mul_signed_finite false h oneRank_lt]
  refine signed_congr ?_
  rw [units_oneRank]
  exact nearestRank_units h unitsPerOne_pos

/-- A share of a finite number has its sign and is not further from zero. -/
theorem Share.mul_signed {x : Binary64} (hx : Share x) (s : Bool) {b : Nat} (hb : b ≤ infinityRank)
    (hfinite : b < infinityRank) :
    ∃ c hc, x * signed s b hb = signed s c hc ∧ c ≤ b := by
  obtain ⟨a, ha, rfl, hone⟩ := hx
  refine ⟨_, _, mul_signed_finite s (Nat.lt_of_le_of_lt hone oneRank_lt) hfinite, ?_⟩
  refine nearestRank_le_rank hfinite unitsPerOne_pos ?_
  rw [Nat.mul_comm]
  exact Nat.mul_le_mul_left _ (units_oneRank ▸ units_mono hone)

theorem Share.mul {x y : Binary64} (hx : Share x) (hy : Share y) : Share (x * y) := by
  obtain ⟨b, hb, rfl, hone⟩ := hy
  obtain ⟨c, hc, heq, hle⟩ := hx.mul_signed false hb (Nat.lt_of_le_of_lt hone oneRank_lt)
  exact ⟨c, hc, heq, Nat.le_trans hle hone⟩

theorem Share.one_mul {x : Binary64} (hx : Share x) : 1 * x = x := by
  obtain ⟨a, ha, rfl, hone⟩ := hx
  have ha' := Nat.lt_of_le_of_lt hone oneRank_lt
  rw [one_eq, mul_signed_finite false oneRank_lt ha']
  refine signed_congr ?_
  rw [units_oneRank, Nat.mul_comm]
  exact nearestRank_units ha' unitsPerOne_pos

theorem Share.mul_one {x : Binary64} (hx : Share x) : x * 1 = x := by
  obtain ⟨a, ha, rfl, hone⟩ := hx
  exact mul_one_finite (Nat.lt_of_le_of_lt hone oneRank_lt)

theorem Share.eq_one_of_le {x : Binary64} (hx : Share x) (h : le 1 x = true) : x = 1 := by
  obtain ⟨a, ha, rfl, hone⟩ := hx
  rw [one_eq] at h ⊢
  simp only [le, key, Bool.false_eq_true, if_false, decide_eq_true_eq] at h
  exact signed_congr (Nat.le_antisymm hone (Int.ofNat_le.mp h))

/-- The product of two shares reaches one only if both are one. -/
theorem Share.eq_one_of_mul {x y : Binary64} (hx : Share x) (hy : Share y)
    (h : x * y = 1) : x = 1 ∧ y = 1 := by
  obtain ⟨a, ha, rfl, haone⟩ := hx
  obtain ⟨b, hb, rfl, hbone⟩ := hy
  have ha' := Nat.lt_of_le_of_lt haone oneRank_lt
  have hb' := Nat.lt_of_le_of_lt hbone oneRank_lt
  rw [mul_signed_finite false ha' hb', one_eq] at h
  obtain ⟨-, hrank⟩ := signed.inj h
  have hproduct : oneRank ≤ a ∧ oneRank ≤ b := by
    rw [← hrank]
    constructor
    · refine nearestRank_le_rank ha' unitsPerOne_pos ?_
      exact Nat.mul_le_mul_left _ (units_oneRank ▸ units_mono hbone)
    · refine nearestRank_le_rank hb' unitsPerOne_pos ?_
      rw [Nat.mul_comm]
      exact Nat.mul_le_mul_left _ (units_oneRank ▸ units_mono haone)
  rw [one_eq]
  exact ⟨signed_congr (Nat.le_antisymm haone hproduct.1),
    signed_congr (Nat.le_antisymm hbone hproduct.2)⟩

theorem div_finite {s t : Bool} {a b : Nat} {ha : a ≤ infinityRank} {hb : b ≤ infinityRank}
    (ha' : a < infinityRank) (hb' : b < infinityRank) (hpos : 0 < b) :
    signed s a ha / signed t b hb = nearest (s != t) (units a * unitsPerOne) (units b) := by
  rw [div_eq, div, if_neg (Nat.ne_of_lt ha'), if_neg (Nat.ne_of_lt hb')]
  exact if_neg (Nat.ne_of_gt hpos)

theorem Share.div_one {x : Binary64} (hx : Share x) : x / 1 = x := by
  obtain ⟨a, ha, rfl, hone⟩ := hx
  have ha' := Nat.lt_of_le_of_lt hone oneRank_lt
  calc signed false a ha / 1
      = signed false a ha / signed false oneRank _ := congrArg (signed false a ha / ·) one_eq
    _ = nearest false (units a * unitsPerOne) (units oneRank) :=
        div_finite ha' oneRank_lt oneRank_pos
    _ = nearest false (units a * unitsPerOne) unitsPerOne :=
        congrArg (nearest false (units a * unitsPerOne)) units_oneRank
    _ = signed false a ha := signed_congr (nearestRank_units ha' unitsPerOne_pos)

/-- A quotient by a positive number that is not exceeded is a share, unless both are infinity. -/
theorem div_share {a b : Nat} {ha : a ≤ infinityRank} {hb : b ≤ infinityRank} (hle : a ≤ b)
    (hpos : 0 < b) :
    signed false a ha / signed false b hb = nan ∨
      Share (signed false a ha / signed false b hb) := by
  by_cases hinf : a = infinityRank
  · rw [div_eq, div, if_pos hinf, if_pos (Nat.le_antisymm hb (hinf ▸ hle))]
    exact Or.inl rfl
  · right
    by_cases hinf' : b = infinityRank
    · rw [div_eq, div, if_neg hinf, if_pos hinf']
      exact ⟨0, Nat.zero_le _, rfl, Nat.zero_le _⟩
    · rw [div_finite (Nat.lt_of_le_of_ne ha hinf) (Nat.lt_of_le_of_ne hb hinf') hpos]
      refine ⟨_, nearestRank_le _ _, rfl, ?_⟩
      calc nearestRank (units a * unitsPerOne) (units b)
          ≤ nearestRank (units oneRank * units b) (units b) := by
            rw [units_oneRank, Nat.mul_comm unitsPerOne]
            exact nearestRank_mono (Nat.mul_le_mul_right _ (units_mono hle))
        _ = oneRank := nearestRank_units oneRank_lt (units_pos hpos)

theorem ofNat_eq (n : Nat) :
    ofNat n = signed false (nearestRank (n * unitsPerOne) 1) (nearestRank_le _ _) := rfl

/-- A quotient of natural numbers whose denominator is not exceeded, computed in the format: a
share, unless both are beyond the format. -/
theorem ofNat_div_share {k m : Nat} (hle : k ≤ m) (hpos : 0 < m) :
    ofNat k / ofNat m = nan ∨ Share (ofNat k / ofNat m) := by
  have hone : oneRank ≤ nearestRank (m * unitsPerOne) 1 := by
    have := nearestRank_units oneRank_lt Nat.one_pos
    rw [units_oneRank, Nat.mul_one] at this
    rw [← this]
    exact nearestRank_mono (Nat.le_mul_of_pos_left _ hpos)
  rw [ofNat_eq, ofNat_eq]
  exact div_share (nearestRank_mono (Nat.mul_le_mul_right _ hle))
    (Nat.lt_of_lt_of_le oneRank_pos hone)

/-! ## Sums of positive numbers -/

def Positive (x : Binary64) : Prop := ∃ rank h, x = signed false rank h ∧ 0 < rank

theorem positive_iff {x : Binary64} : lt 0 x = true ↔ Positive x := by
  rw [zero_eq]
  cases x with
  | nan =>
      refine ⟨fun h => absurd h Bool.false_ne_true, ?_⟩
      rintro ⟨rank, h, heq, -⟩
      exact absurd heq Binary64.noConfusion
  | signed negative rank h =>
      rw [lt, decide_eq_true_eq]
      cases negative with
      | true =>
          have hkey : ¬ key false 0 < key true rank := by
            unfold key
            simp
          refine ⟨fun h => absurd h hkey, ?_⟩
          rintro ⟨r, hr, heq, -⟩
          exact absurd (signed.inj heq).1 Bool.noConfusion
      | false =>
          have hkey : key false 0 < key false rank ↔ 0 < rank := by
            unfold key
            simp
          rw [hkey]
          constructor
          · exact fun hpos => ⟨rank, h, rfl, hpos⟩
          · rintro ⟨r, hr, heq, hpos⟩
            exact (signed.inj heq).2 ▸ hpos

theorem nearestRank_pos {n : Nat} (h : 0 < n) : 0 < nearestRank n 1 := by
  have hone : nearestRank (units 1 * 1) 1 = 1 := nearestRank_units (by decide) Nat.one_pos
  rw [units_of_lt (by decide)] at hone
  calc 0 < nearestRank (1 * 1) 1 := by rw [hone]; exact Nat.one_pos
    _ ≤ nearestRank n 1 := nearestRank_mono h

theorem Positive.add {x y : Binary64} (hx : Positive x) (hy : Positive y) : Positive (x + y) := by
  obtain ⟨a, ha, rfl, ha0⟩ := hx
  obtain ⟨b, hb, rfl, hb0⟩ := hy
  rw [add_eq, Binary64.add]
  split
  · simpa using ⟨a, ha, rfl, ha0⟩
  · split
    · exact ⟨b, hb, rfl, hb0⟩
    · have ha1 := units_pos ha0
      have hb1 := units_pos hb0
      simp only [signedUnits, Bool.false_eq_true, if_false]
      rw [if_neg (by omega), show (decide ((units a : Int) + units b < 0)) = false by
        simp; omega]
      exact ⟨_, nearestRank_le _ _, rfl, nearestRank_pos (by omega)⟩

theorem negativeZero_add {y : Binary64} (hy : Positive y) : Positive (signedZero true + y) := by
  obtain ⟨b, hb, rfl, hb0⟩ := hy
  rw [add_eq, signedZero, Binary64.add, if_neg (by decide)]
  split
  · exact ⟨b, hb, rfl, hb0⟩
  · have hb1 := units_pos hb0
    have hzero : units 0 = 0 := rfl
    simp only [signedUnits, hzero, if_true, Bool.false_eq_true, if_false]
    rw [if_neg (by omega), show (decide (-((0 : Nat) : Int) + units b < 0)) = false by simp]
    exact ⟨_, nearestRank_le _ _, rfl, nearestRank_pos (by omega)⟩

/-- The sum of positive numbers, if there are any, is positive. It may be infinity. -/
theorem sum_positive {x : Binary64} {xs : List Binary64} (h : ∀ y ∈ x :: xs, Positive y) :
    Positive (sum (x :: xs)) := by
  have hfold : ∀ (ys : List Binary64) {acc : Binary64}, Positive acc → (∀ y ∈ ys, Positive y) →
      Positive (ys.foldl (· + ·) acc) := by
    intro ys
    induction ys with
    | nil => exact fun hacc _ => hacc
    | cons y ys ih =>
        intro acc hacc hys
        obtain ⟨hy, hys⟩ := List.forall_mem_cons.mp hys
        exact ih (hacc.add hy) hys
  obtain ⟨hx, hxs⟩ := List.forall_mem_cons.mp h
  exact hfold xs (negativeZero_add hx) hxs

end Binary64

end Gapfill
