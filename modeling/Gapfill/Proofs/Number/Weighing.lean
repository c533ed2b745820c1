import Gapfill.Proofs.Number.Precision

/-!
# Products with quotients of natural numbers

Rounding can hide a factor: the greatest number below one leaves the least
positive number as it is, and the product of two small numbers is zero. Neither
happens to a number with an exponent and a quotient of natural numbers whose
denominator is at most `quotientDen`. Such a quotient is one, or so far below it
that it takes at least a step from the number (`AtLeastPow.mul_div_eq_self_iff`).
And it is zero, or leaves a number that is smaller by at most fifty powers of two
(`AtLeastPow.mul_div`).
-/

namespace Gapfill

namespace Binary64

/-! ## Nothing and something -/

theorem Positive.ne_zero {x : Binary64} (h : Positive x) : x ≠ 0 := by
  rintro rfl
  exact absurd (positive_iff.mpr h) (by decide +kernel)

theorem Positive.of_atMost {x y : Binary64} (h : Positive x) (hle : AtMost x y) : Positive y := by
  obtain ⟨a, b, ha, hb, rfl, rfl, hab⟩ := hle
  obtain ⟨a', ha', heq, hpos⟩ := h
  obtain ⟨-, rfl⟩ := signed.inj heq
  exact ⟨b, hb, rfl, Nat.lt_of_lt_of_le hpos hab⟩

theorem Unsigned.eq_zero_iff {x : Binary64} (h : Unsigned x) : x = 0 ↔ ¬ Positive x := by
  refine ⟨fun hzero hpositive => hpositive.ne_zero hzero, fun hnot => ?_⟩
  obtain ⟨rank, hrank, rfl⟩ := h
  rw [zero_eq]
  exact signed_congr (Nat.eq_zero_of_not_pos fun hpos => hnot ⟨rank, hrank, rfl, hpos⟩)

theorem AtMost.antisymm {x y : Binary64} (h : AtMost x y) (h' : AtMost y x) : x = y := by
  obtain ⟨a, b, ha, hb, rfl, rfl, hle⟩ := h
  exact signed_congr (Nat.le_antisymm hle h'.rank_le)

/-! ## Quotients -/

/-- The greatest denominator of the quotients that are seen in a product. -/
def quotientDen : Nat := 2 ^ 50

theorem lt_pow_of_le_quotientDen {n : Nat} (h : n ≤ quotientDen) : n < 2 ^ 53 :=
  Nat.lt_of_le_of_lt h (by decide)

/-- The rank of the least such quotient that is not zero. -/
def leastPartRank : Nat := 973 * binade

/-- The rank of the greatest such quotient that is not one. -/
def greatestPartRank : Nat := oneRank - 2 ^ 3

theorem units_leastPartRank : units leastPartRank * quotientDen = unitsPerOne := by decide +kernel

theorem units_greatestPartRank :
    units greatestPartRank * quotientDen = (quotientDen - 1) * unitsPerOne := by decide +kernel

/-- A finite number without sign that is at least `2 ^ i` units. -/
def AtLeastPow (i : Nat) (x : Binary64) : Prop :=
  ∃ rank h, x = signed false rank h ∧ rank < infinityRank ∧ 2 ^ i ≤ units rank

theorem AtLeastPow.mono {i j : Nat} {x : Binary64} (h : AtLeastPow j x) (hle : i ≤ j) :
    AtLeastPow i x := by
  obtain ⟨rank, hrank, rfl, hfinite, hpow⟩ := h
  exact ⟨rank, hrank, rfl, hfinite, Nat.le_trans (Nat.pow_le_pow_right (by decide) hle) hpow⟩

theorem AtLeastPow.positive {i : Nat} {x : Binary64} (h : AtLeastPow i x) : Positive x := by
  obtain ⟨rank, hrank, rfl, -, hpow⟩ := h
  exact ⟨rank, hrank, rfl, pos_of_units_pos (Nat.lt_of_lt_of_le (Nat.two_pow_pos i) hpow)⟩

theorem AtLeastPow.isFinite {i : Nat} {x : Binary64} (h : AtLeastPow i x) : x.isFinite = true := by
  obtain ⟨rank, hrank, rfl, hfinite, -⟩ := h
  exact decide_eq_true hfinite

/-- A number that is at least `2 ^ 52` units has an exponent. -/
theorem binade_le_of_pow_le {rank : Nat} (h : 2 ^ 52 ≤ units rank) : binade ≤ rank := by
  refine Nat.le_of_not_lt fun hlt => ?_
  rw [units_of_lt hlt] at h
  exact Nat.not_lt.mpr h hlt

theorem mul_zero_finite {c : Nat} {hc : c ≤ infinityRank} (h : c < infinityRank) :
    signed false c hc * 0 = 0 := by
  rw [zero_eq, mul_signed_finite false h (by decide)]
  refine signed_congr ?_
  rw [units_zero, Nat.mul_zero]
  exact nearestRank_nothing unitsPerOne_pos

/-- A number that is below one by one part in `quotientDen` takes at least a step from a number with
an exponent. -/
theorem nearestRank_mul_lt {c r : Nat} (hnormal : binade ≤ c) (hc : c < infinityRank)
    (hr : r ≤ greatestPartRank) : nearestRank (units c * units r) unitsPerOne < c := by
  have hpos : 0 < c := Nat.lt_of_lt_of_le binade_pos hnormal
  have hpred : units c = units (c - 1) + step (c - 1) := by
    rw [← units_succ, Nat.sub_add_cancel hpos]
  have hstep : quotientDen * step (c - 1) ≤ units c :=
    calc quotientDen * step (c - 1) ≤ 2 ^ 52 * step c :=
          Nat.mul_le_mul (by decide) (step_mono (Nat.sub_le c 1))
      _ ≤ units c := step_le_units hnormal
  have hless : units c * (quotientDen - 1) ≤ units (c - 1) * quotientDen := by
    have hexpand : units c * quotientDen
        = units (c - 1) * quotientDen + quotientDen * step (c - 1) := by
      rw [hpred]
      ring
    rw [Nat.mul_sub, Nat.mul_one]
    omega
  have hbelow : units c * units r ≤ units (c - 1) * unitsPerOne := by
    refine Nat.le_of_mul_le_mul_right ?_ (show 0 < quotientDen by decide)
    calc units c * units r * quotientDen
        ≤ units c * (units greatestPartRank * quotientDen) := by
          rw [Nat.mul_assoc]
          exact Nat.mul_le_mul_left _ (Nat.mul_le_mul_right _ (units_mono hr))
      _ = units c * (quotientDen - 1) * unitsPerOne := by
          rw [units_greatestPartRank, Nat.mul_assoc]
      _ ≤ units (c - 1) * quotientDen * unitsPerOne := Nat.mul_le_mul_right _ hless
      _ = units (c - 1) * unitsPerOne * quotientDen := by ring
  have hle := nearestRank_le_rank (Nat.lt_of_le_of_lt (Nat.sub_le c 1) hc) unitsPerOne_pos hbelow
  omega

section

variable {s n : Nat} (hle : s ≤ n) (hpos : 0 < n) (hn : n ≤ quotientDen)

include hle hpos hn

/-- Such a quotient is nothing, or a number in between, or one. -/
theorem ofNat_div_cases :
    (s = 0 ∧ ofNat s / ofNat n = 0) ∨ (s = n ∧ ofNat s / ofNat n = 1)
      ∨ (0 < s ∧ s < n ∧ ∃ rank h, ofNat s / ofNat n = signed false rank h
        ∧ leastPartRank ≤ rank ∧ rank ≤ greatestPartRank) := by
  obtain ⟨a, ha, hs, hafinite, haunits⟩ :=
    ofNat_exact (Nat.lt_of_le_of_lt hle (lt_pow_of_le_quotientDen hn))
  obtain ⟨b, hb, hn', hbfinite, hbunits⟩ := ofNat_exact (lt_pow_of_le_quotientDen hn)
  have hbpos : 0 < units b := hbunits ▸ Nat.mul_pos hpos unitsPerOne_pos
  have hquotient : ofNat s / ofNat n =
      signed false (nearestRank (units a * unitsPerOne) (units b)) (nearestRank_le _ _) := by
    rw [hs, hn', div_unsigned hafinite hbfinite (pos_of_units_pos hbpos)]
  rcases Nat.lt_or_eq_of_le hle with hlt | rfl
  · rcases Nat.eq_zero_or_pos s with rfl | hspos
    · refine Or.inl ⟨rfl, ?_⟩
      rw [hquotient, zero_eq]
      refine signed_congr ?_
      rw [haunits, Nat.zero_mul, Nat.zero_mul]
      exact nearestRank_nothing hbpos
    · refine Or.inr (Or.inr ⟨hspos, hlt, _, _, hquotient, ?_, ?_⟩)
      · rw [haunits, hbunits]
        exact le_quotient units_leastPartRank (by decide) hspos hpos hn
      · rw [haunits, hbunits]
        exact quotient_le units_greatestPartRank (by decide) hlt hn
  · exact Or.inr (Or.inl ⟨rfl, ofNat_div_self hpos (by decide : 50 < 1024) hn⟩)

theorem ofNat_div_positive_iff : Positive (ofNat s / ofNat n) ↔ 0 < s := by
  rcases ofNat_div_cases hle hpos hn with ⟨rfl, hzero⟩ | ⟨rfl, hone⟩ | ⟨hs, -, r, hr, hq, hleast, -⟩
  · rw [hzero]
    exact iff_of_false (fun h => h.ne_zero rfl) (Nat.lt_irrefl 0)
  · rw [hone]
    exact iff_of_true ⟨oneRank, _, one_eq, oneRank_pos⟩ hpos
  · exact iff_of_true ⟨r, hr, hq, Nat.lt_of_lt_of_le (by decide) hleast⟩ hs

/-- A quotient that is not zero leaves much of a number. -/
theorem AtLeastPow.mul_div {i : Nat} {x : Binary64} (h : AtLeastPow (i + 50) x) (hi : 52 ≤ i)
    (hs : 0 < s) : AtLeastPow i (x * (ofNat s / ofNat n)) := by
  rcases ofNat_div_cases hle hpos hn with ⟨hzero, -⟩ | ⟨-, hone⟩ | ⟨-, -, r, hr, hq, hleast, hmost⟩
  · omega
  · rw [hone]
    obtain ⟨c, hc, rfl, hfinite, -⟩ := id h
    rw [mul_one_finite hfinite]
    exact h.mono (Nat.le_add_right i 50)
  · obtain ⟨c, hc, rfl, hfinite, hpow⟩ := h
    have hnormal := binade_le_of_pow_le
      (Nat.le_trans (Nat.pow_le_pow_right (by decide) (Nat.le_add_right_of_le hi)) hpow)
    have hless := nearestRank_mul_lt hnormal hfinite hmost
    rw [hq, mul_signed_finite false hfinite (Nat.lt_of_le_of_lt hmost (by decide))]
    refine ⟨_, nearestRank_le _ _, rfl, Nat.lt_trans hless hfinite,
      pow_le_units_mul hi hfinite hpow ?_⟩
    rw [← units_leastPartRank]
    exact Nat.mul_le_mul_right _ (units_mono hleast)

/-- A quotient that is zero leaves nothing of a number, and only that one. -/
theorem AtLeastPow.mul_div_positive_iff {i : Nat} {x : Binary64} (h : AtLeastPow (i + 50) x)
    (hi : 52 ≤ i) : Positive (x * (ofNat s / ofNat n)) ↔ 0 < s := by
  refine ⟨fun hproduct => Nat.pos_of_ne_zero ?_, fun hs => (h.mul_div hle hpos hn hi hs).positive⟩
  rintro rfl
  have hzero := mt (ofNat_div_positive_iff hle hpos hn).mp (Nat.lt_irrefl 0)
  rcases ofNat_div_cases hle hpos hn with ⟨-, hq⟩ | ⟨heq, -⟩ | ⟨hs, -⟩
  · obtain ⟨c, hc, rfl, hfinite, -⟩ := h
    rw [hq, mul_zero_finite hfinite] at hproduct
    exact hzero (hq ▸ hproduct)
  · exact Nat.ne_of_lt hpos heq
  · exact Nat.lt_irrefl 0 hs

theorem AtLeastPow.mul_div_atMost {i : Nat} {x : Binary64} (h : AtLeastPow i x) :
    AtMost (x * (ofNat s / ofNat n)) x := by
  have hshare := ofNat_div_share_of_lt hle hpos (lt_pow_of_le_quotientDen hn)
  refine (h.positive.atMost_self.mul_share hshare).resolve_right ?_
  rintro ⟨-, hinfinite⟩
  exact Bool.false_ne_true (hinfinite.symm.trans h.isFinite)

/-- A quotient that is not one takes something from a number. -/
theorem AtLeastPow.mul_div_eq_self_iff {i : Nat} {x : Binary64} (h : AtLeastPow i x) (hi : 52 ≤ i) :
    x * (ofNat s / ofNat n) = x ↔ s = n := by
  obtain ⟨c, hc, rfl, hfinite, hpow⟩ := h.mono hi
  rcases ofNat_div_cases hle hpos hn with ⟨rfl, hzero⟩ | ⟨rfl, hone⟩ | ⟨-, hlt, r, hr, hq, -, hmost⟩
  · rw [hzero, mul_zero_finite hfinite, zero_eq]
    refine iff_of_false (fun heq => ?_) (Nat.ne_of_lt hpos)
    obtain ⟨-, rfl⟩ := signed.inj heq
    exact absurd hpow (by decide)
  · exact iff_of_true (by rw [hone, mul_one_finite hfinite]) rfl
  · rw [hq, mul_signed_finite false hfinite (Nat.lt_of_le_of_lt hmost (by decide))]
    refine iff_of_false (fun heq => ?_) (Nat.ne_of_lt hlt)
    have hless := nearestRank_mul_lt (binade_le_of_pow_le hpow) hfinite hmost
    exact Nat.ne_of_lt hless (signed.inj heq).2

end

/-- Two quotients leave a number as it is only if both are one. -/
theorem AtLeastPow.mul_div_mul_div_eq_self_iff {s n t d : Nat} {x : Binary64}
    (h : AtLeastPow 102 x) (hs : 0 < s) (hsn : s ≤ n) (hn : n ≤ quotientDen) (htd : t ≤ d)
    (hd : 0 < d) (hd' : d ≤ quotientDen) :
    x * (ofNat s / ofNat n) * (ofNat t / ofNat d) = x ↔ s = n ∧ t = d := by
  have hpos := Nat.lt_of_lt_of_le hs hsn
  have hproduct := AtLeastPow.mul_div hsn hpos hn (i := 52) h (by decide) hs
  have hwhole := h.mul_div_eq_self_iff hsn hpos hn (by decide)
  have hrest := hproduct.mul_div_eq_self_iff htd hd hd' (by decide)
  constructor
  · intro heq
    -- the product with the first quotient lies between the other two numbers, which are the same
    have hleast := hproduct.mul_div_atMost htd hd hd'
    rw [heq] at hleast
    have hfirst := (h.mul_div_atMost hsn hpos hn).antisymm hleast
    exact ⟨hwhole.mp hfirst, hrest.mp (heq.trans hfirst.symm)⟩
  · rintro ⟨rfl, rfl⟩
    rw [hrest.mpr rfl, hwhole.mpr rfl]

end Binary64

end Gapfill
