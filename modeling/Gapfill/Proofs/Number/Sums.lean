import Gapfill.Proofs.Number.Rounding

/-!
# Sums keep the order

`AtMost x y` says that two numbers have no sign and that the first is not the
greater one; either may be infinity. Rounding is monotone, so sums of such
numbers keep the order (`AtMost.add`), and with it sums of whole lists
(`AtMost.sum`). A share of a number is at most that number, where it is a number
at all: a share of infinity need not be one (`AtMost.mul_share`).

The quotient of two such numbers is a share unless the first is infinity
(`AtMost.div_share`).
-/

namespace Gapfill

namespace Binary64

/-! ## No number at all -/

theorem nan_add (x : Binary64) : nan + x = nan := rfl

theorem add_nan (x : Binary64) : x + nan = nan := by
  cases x <;> rfl

theorem nan_mul (x : Binary64) : nan * x = nan := rfl

theorem foldl_add_nan (xs : List Binary64) : xs.foldl (· + ·) nan = nan := by
  induction xs with
  | nil => rfl
  | cons x xs ih => rw [List.foldl_cons, nan_add, ih]

/-! ## The order of two numbers -/

/-- Both numbers have no sign, and the first is at most the second. -/
def AtMost (x y : Binary64) : Prop :=
  ∃ a b ha hb, x = signed false a ha ∧ y = signed false b hb ∧ a ≤ b

theorem Positive.atMost_self {x : Binary64} (h : Positive x) : AtMost x x := by
  obtain ⟨a, ha, rfl, -⟩ := h
  exact ⟨a, a, ha, ha, rfl, rfl, Nat.le_refl a⟩

theorem Positive.zero_atMost {x : Binary64} (h : Positive x) : AtMost 0 x := by
  obtain ⟨a, ha, rfl, -⟩ := h
  exact ⟨0, a, Nat.zero_le _, ha, zero_eq, rfl, Nat.zero_le a⟩

theorem AtMost.bounds {x y : Binary64} (h : AtMost x y) : le 0 x = true ∧ x.le y = true := by
  obtain ⟨a, b, ha, hb, rfl, rfl, hab⟩ := h
  rw [zero_eq]
  simp only [le, key, Bool.false_eq_true, if_false, decide_eq_true_eq]
  omega

theorem AtMost.isFinite {x y : Binary64} (h : AtMost x y) (hy : y.isFinite = true) :
    x.isFinite = true := by
  obtain ⟨a, b, ha, hb, rfl, rfl, hab⟩ := h
  simp only [Binary64.isFinite, decide_eq_true_eq] at hy ⊢
  exact Nat.lt_of_le_of_lt hab hy

/-! ## Sums -/

/-- The rank of the sum of two numbers without sign. -/
def addRank (a b : Nat) : Nat :=
  if a = infinityRank ∨ b = infinityRank then infinityRank else nearestRank (units a + units b) 1

theorem addRank_le (a b : Nat) : addRank a b ≤ infinityRank := by
  unfold addRank
  split
  · exact Nat.le_refl _
  · exact nearestRank_le _ _

theorem addRank_mono {a a' b b' : Nat} (ha : a ≤ a') (hb : b ≤ b') (ha' : a' ≤ infinityRank)
    (hb' : b' ≤ infinityRank) : addRank a b ≤ addRank a' b' := by
  by_cases hinf : a' = infinityRank ∨ b' = infinityRank
  · have heq : addRank a' b' = infinityRank := if_pos hinf
    rw [heq]
    exact addRank_le a b
  · have hfinite : ¬ (a = infinityRank ∨ b = infinityRank) := by omega
    unfold addRank
    rw [if_neg hinf, if_neg hfinite]
    exact nearestRank_mono (Nat.add_le_add (units_mono ha) (units_mono hb))

theorem signed_add {a b : Nat} (ha : a ≤ infinityRank) (hb : b ≤ infinityRank) :
    signed false a ha + signed false b hb = signed false (addRank a b) (addRank_le a b) := by
  rw [add_eq, add]
  by_cases hainf : a = infinityRank
  · rw [if_pos hainf, if_neg (by simp)]
    exact signed_congr (hainf.trans (if_pos (Or.inl hainf)).symm)
  · rw [if_neg hainf]
    by_cases hbinf : b = infinityRank
    · rw [if_pos hbinf]
      exact signed_congr (hbinf.trans (if_pos (Or.inr hbinf)).symm)
    · have hrank : addRank a b = nearestRank (units a + units b) 1 := if_neg (by omega)
      rw [if_neg hbinf]
      simp only [signedUnits, Bool.false_eq_true, if_false]
      by_cases hzero : (units a : Int) + units b = 0
      · have hunits : units a + units b = 0 := by omega
        rw [if_pos hzero, signedZero]
        exact signed_congr (by rw [hrank, hunits, nearestRank_zero])
      · have hsign : decide ((units a : Int) + units b < 0) = false := by
          simp only [decide_eq_false_iff_not]
          omega
        have habs : ((units a : Int) + units b).natAbs = units a + units b := by omega
        rw [if_neg hzero, hsign, nearest_eq, habs]
        exact signed_congr hrank.symm

theorem AtMost.add {x x' y y' : Binary64} (hx : AtMost x x') (hy : AtMost y y') :
    AtMost (x + y) (x' + y') := by
  obtain ⟨a, a', ha, ha', rfl, rfl, haa⟩ := hx
  obtain ⟨b, b', hb, hb', rfl, rfl, hbb⟩ := hy
  exact ⟨addRank a b, addRank a' b', addRank_le _ _, addRank_le _ _, signed_add ha hb,
    signed_add ha' hb', addRank_mono haa hbb ha' hb'⟩

/-- The negative zero that a sum begins with is lost with the first summand. -/
theorem negativeZero_add_signed {a : Nat} (ha : a ≤ infinityRank) :
    signedZero true + signed false a ha = signed false a ha := by
  have hzero : (0 : Nat) ≠ infinityRank := by decide
  have hunits : units 0 = 0 := rfl
  rw [add_eq, signedZero, add, if_neg hzero]
  by_cases hinf : a = infinityRank
  · rw [if_pos hinf]
  · rw [if_neg hinf]
    simp only [signedUnits, Bool.false_eq_true, if_false, if_true, hunits]
    by_cases ha0 : a = 0
    · subst ha0
      rfl
    · have hpos := units_pos (Nat.pos_of_ne_zero ha0)
      have hsign : decide (-((0 : Nat) : Int) + units a < 0) = false := by
        simp only [decide_eq_false_iff_not]
        omega
      have habs : (-((0 : Nat) : Int) + units a).natAbs = units a * 1 := by omega
      rw [if_neg (by omega), hsign, nearest_eq, habs]
      exact signed_congr (nearestRank_units (Nat.lt_of_le_of_ne ha hinf) Nat.one_pos)

/-- One summand that is no number spoils the sum. -/
theorem sum_eq_nan {xs : List Binary64} (h : nan ∈ xs) : sum xs = nan := by
  obtain ⟨before, after, rfl⟩ := List.append_of_mem h
  unfold sum
  rw [List.foldl_append, List.foldl_cons, add_nan, foldl_add_nan]

theorem isFinite_of_add {x y : Binary64} (h : (x + y).isFinite = true) :
    x.isFinite = true ∧ y.isFinite = true := by
  rw [add_eq] at h
  cases x with
  | nan => exact absurd h Bool.false_ne_true
  | signed s a ha =>
      cases y with
      | nan => exact absurd h Bool.false_ne_true
      | signed t b hb =>
          simp only [Binary64.isFinite, decide_eq_true_eq]
          have hinfinite : ∀ {u c hc}, c = infinityRank →
              (signed u c hc).isFinite = true → False := by
            intro u c hc heq hfinite
            exact absurd (of_decide_eq_true hfinite) (Nat.not_lt.mpr (Nat.le_of_eq heq.symm))
          by_cases ha' : a = infinityRank
          · rw [add, if_pos ha'] at h
            split at h
            · exact absurd h Bool.false_ne_true
            · exact (hinfinite ha' h).elim
          · by_cases hb' : b = infinityRank
            · rw [add, if_neg ha', if_pos hb'] at h
              exact (hinfinite hb' h).elim
            · exact ⟨Nat.lt_of_le_of_ne ha ha', Nat.lt_of_le_of_ne hb hb'⟩

/-- Every summand of a finite sum is finite. -/
theorem isFinite_of_sum {xs : List Binary64} (h : (sum xs).isFinite = true) :
    ∀ x ∈ xs, x.isFinite = true := by
  have hfold : ∀ (ys : List Binary64) (acc : Binary64),
      (ys.foldl (· + ·) acc).isFinite = true →
        acc.isFinite = true ∧ ∀ y ∈ ys, y.isFinite = true := by
    intro ys
    induction ys with
    | nil => exact fun acc hacc => ⟨hacc, by simp⟩
    | cons y ys ih =>
        intro acc hacc
        obtain ⟨hsum, hys⟩ := ih (acc + y) hacc
        obtain ⟨hacc, hy⟩ := isFinite_of_add hsum
        exact ⟨hacc, List.forall_mem_cons.mpr ⟨hy, hys⟩⟩
  exact (hfold xs _ h).2

/-- Sums of a list in two ways, where each summand of the first is at most its counterpart. -/
theorem AtMost.sum {α : Type} {f g : α → Binary64} {xs : List α} (hne : xs ≠ [])
    (h : ∀ a ∈ xs, AtMost (f a) (g a)) : AtMost (sum (xs.map f)) (sum (xs.map g)) := by
  have hfold : ∀ (ys : List α) {x y : Binary64}, AtMost x y → (∀ a ∈ ys, AtMost (f a) (g a)) →
      AtMost ((ys.map f).foldl (· + ·) x) ((ys.map g).foldl (· + ·) y) := by
    intro ys
    induction ys with
    | nil => exact fun hxy _ => hxy
    | cons a ys ih =>
        intro x y hxy hys
        obtain ⟨ha, hys⟩ := List.forall_mem_cons.mp hys
        exact ih (hxy.add ha) hys
  obtain ⟨a, xs, rfl⟩ := List.exists_cons_of_ne_nil hne
  obtain ⟨ha, hxs⟩ := List.forall_mem_cons.mp h
  have hstart : signedZero true + f a = f a ∧ signedZero true + g a = g a := by
    obtain ⟨i, j, hi, hj, hf, hg, -⟩ := ha
    rw [hf, hg]
    exact ⟨negativeZero_add_signed hi, negativeZero_add_signed hj⟩
  unfold Binary64.sum
  rw [List.map_cons, List.map_cons, List.foldl_cons, List.foldl_cons, hstart.1, hstart.2]
  exact hfold xs ha hxs

/-! ## Products and quotients -/

/-- A share of a number is at most what the number is. Of infinity it may be no number: none of
infinity is not nothing. -/
theorem AtMost.mul_share {x y s : Binary64} (h : AtMost x y) (hs : Share s) :
    AtMost (x * s) y ∨ x * s = nan ∧ x.isFinite = false := by
  obtain ⟨a, b, ha, hb, rfl, rfl, hab⟩ := h
  obtain ⟨c, hc, rfl, hone⟩ := hs
  have hc' : c ≠ infinityRank := Nat.ne_of_lt (Nat.lt_of_le_of_lt hone oneRank_lt)
  by_cases hinf : a = infinityRank
  · have hb' : b = infinityRank := Nat.le_antisymm hb (hinf ▸ hab)
    rw [mul_eq, mul, if_pos (Or.inl hinf)]
    split
    · exact Or.inr ⟨rfl, decide_eq_false (Nat.not_lt.mpr (Nat.le_of_eq hinf.symm))⟩
    · exact Or.inl ⟨infinityRank, b, Nat.le_refl _, hb, rfl, rfl, Nat.le_of_eq hb'.symm⟩
  · left
    have hunits := units_mono hone
    rw [units_oneRank] at hunits
    refine ⟨nearestRank (units a * units c) unitsPerOne, b, nearestRank_le _ _, hb, ?_, rfl, ?_⟩
    · rw [mul_eq, mul, if_neg (by omega)]
      rfl
    · calc nearestRank (units a * units c) unitsPerOne
          ≤ nearestRank (units a * unitsPerOne) unitsPerOne :=
            nearestRank_mono (Nat.mul_le_mul_left _ hunits)
        _ = a := nearestRank_units (Nat.lt_of_le_of_ne ha hinf) unitsPerOne_pos
        _ ≤ b := hab

/-- The quotient of a finite number by a positive one that it does not exceed. -/
theorem AtMost.div_share {x y : Binary64} (h : AtMost x y) (hx : x.isFinite = true)
    (hy : Positive y) : Share (x / y) := by
  obtain ⟨a, b, ha, hb, rfl, rfl, hab⟩ := h
  obtain ⟨b', hb', heq, hpos⟩ := hy
  obtain ⟨-, rfl⟩ := signed.inj heq
  have ha' : a ≠ infinityRank := Nat.ne_of_lt (of_decide_eq_true hx)
  refine (Binary64.div_share hab hpos).resolve_left fun hnan => ?_
  rw [div_eq, div, if_neg ha'] at hnan
  split at hnan
  · exact Binary64.noConfusion hnan
  · rw [if_neg (by omega)] at hnan
    exact Binary64.noConfusion hnan

/-- Infinity as a part of something is no number. -/
theorem AtMost.div_eq_nan {x y : Binary64} (h : AtMost x y) (hx : x.isFinite = false) :
    x / y = nan := by
  obtain ⟨a, b, ha, hb, rfl, rfl, hab⟩ := h
  have ha' : a = infinityRank :=
    Nat.le_antisymm ha (Nat.le_of_not_lt (of_decide_eq_false hx))
  have hb' : b = infinityRank := Nat.le_antisymm hb (ha' ▸ hab)
  rw [div_eq, div, if_pos ha', if_pos hb']

theorem Share.bounds {x : Binary64} (h : Share x) : le 0 x = true ∧ x.le 1 = true := by
  obtain ⟨a, ha, rfl, hone⟩ := h
  exact AtMost.bounds ⟨a, oneRank, ha, _, rfl, one_eq, hone⟩

end Binary64

end Gapfill
