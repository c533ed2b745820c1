import Gapfill.Proofs.Json.Decimals
import Gapfill.Proofs.Number.Order
import Gapfill.Proofs.Number.Shortest

/-!
# Floats in JSON

A finite float is written with the fewest digits that denote it, and read by way of
a product or quotient with a power of ten. This is always a finite float again
(`floatText_spec`): a decimal that rounds to a number does not exceed the middle
between the greatest number and what would be next, and the power of ten that is
read with fewer digits is no greater than that. Where the digits and the power of
ten are both numbers of the format, the result is rounded once only, and it is
the float itself (`reread_of_isShort`).
-/

namespace Gapfill

namespace Json

open Binary64

/-! ## Powers of ten -/

/-- A power of ten as reading takes it. -/
theorem ofDecimal_one {e : Nat} (h : e ≤ maxPower) :
    ofDecimal false 1 e = signed false (nearestRank (10 ^ e * unitsPerOne) 1)
      (nearestRank_le _ _) := by
  have hsmall : ¬ (1100 : Int) < ((1 : Nat).log2 : Int) + 3 * e := by
    have hlog : (1 : Nat).log2 = 0 := by decide
    have hmax : e ≤ 308 := h
    rw [hlog]
    omega
  rw [ofDecimal, if_neg (by decide), if_pos (Int.natCast_nonneg e), if_neg hsmall,
    Int.toNat_natCast, Nat.one_mul]
  rfl

theorem smallPower_units : ∀ e < 23,
    units (nearestRank (10 ^ e * unitsPerOne) 1) = 10 ^ e * unitsPerOne
      ∧ nearestRank (10 ^ e * unitsPerOne) 1 < infinityRank := by
  decide +kernel

/-! ## Numbers that are not too great -/

/-- A product of positive numbers is finite if that of greater ones is. -/
theorem mul_isFinite_of_le {a b p q : Nat} {ha : a ≤ infinityRank} {hb : b ≤ infinityRank}
    {hp : p ≤ infinityRank} {hq : q ≤ infinityRank} (hab : a ≤ b) (hpq : p ≤ q)
    (h : (signed false b hb * signed false q hq).isFinite = true) :
    (signed false a ha * signed false p hp).isFinite = true := by
  have hfinite : b ≠ infinityRank ∧ q ≠ infinityRank := by
    by_contra hinf
    have hor : b = infinityRank ∨ q = infinityRank := by
      by_contra hnot
      exact hinf (not_or.mp hnot)
    rw [mul_eq, mul, if_pos hor] at h
    split at h
    · exact Bool.false_ne_true h
    · simp [infinity, isFinite] at h
  have hb' := Nat.lt_of_le_of_ne hb hfinite.1
  have hq' := Nat.lt_of_le_of_ne hq hfinite.2
  rw [mul_signed_finite false hb' hq'] at h
  rw [mul_signed_finite false (Nat.lt_of_le_of_lt hab hb') (Nat.lt_of_le_of_lt hpq hq')]
  rw [isFinite, decide_eq_true_eq] at h ⊢
  refine Nat.lt_of_le_of_lt (nearestRank_mono ?_) h
  exact Nat.mul_le_mul (units_mono hab) (units_mono hpq)

theorem scaled_nonneg {e : Nat} (h : e ≤ maxPower) (fuel : Nat) (x : Binary64) :
    scaled (fuel + 1) x e
      = if (x * ofDecimal false 1 e).isFinite then some (x * ofDecimal false 1 e) else none := by
  rw [scaled, if_pos (by simpa using h), if_pos (Int.natCast_nonneg e), Int.natAbs_natCast]

/-- Less digits with a lower power do not become too great if others do not. -/
theorem scaled_isSome_of_le {m n e f : Nat} (hmn : m ≤ n) (hef : e ≤ f) (hf : f ≤ maxPower)
    {fuel : Nat} (hsome : (scaled (fuel + 1) (ofNat n) f).isSome = true) :
    (scaled (fuel + 1) (ofNat m) e).isSome = true := by
  have he := Nat.le_trans hef hf
  have hpow : 10 ^ e * unitsPerOne ≤ 10 ^ f * unitsPerOne :=
    Nat.mul_le_mul_right _ (Nat.pow_le_pow_right (by decide) hef)
  rw [scaled_nonneg hf, ofDecimal_one hf, ofNat_eq] at hsome
  rw [scaled_nonneg he, ofDecimal_one he, ofNat_eq]
  split at hsome
  · rename_i hfinite
    rw [if_pos (mul_isFinite_of_le (nearestRank_mono (Nat.mul_le_mul_right _ hmn))
      (nearestRank_mono hpow) hfinite)]
    rfl
  · exact absurd hsome Bool.false_ne_true

/-- A number with a negative power of ten is a quotient, which is always there. -/
theorem scaled_neg {e : Int} (h : e < 0) (fuel : Nat) (x : Binary64) :
    (scaled fuel x e).isSome = true := by
  induction fuel generalizing x e with
  | zero => rfl
  | succ fuel ih =>
      rw [scaled]
      split
      · rw [if_neg (by omega)]
        rfl
      · rename_i hgreat
        have hmax : maxPower = 308 := rfl
        split
        · rfl
        · rw [if_neg (by omega)]
          exact ih (by omega) _

/-- Twice the middle below the greatest number, in units. -/
def topMiddle : Nat := units (infinityRank - 2) + units (infinityRank - 1)

/-- The greatest leading digits of a number below that middle. -/
def mostDigits (e : Nat) : Nat := min maxCount (topMiddle / (2 * (10 ^ e * unitsPerOne)))

/-- The least power of ten for which less than 64 bits are too great. -/
def leastPower : Nat := 288

theorem mostDigits_leastPower : mostDigits leastPower = maxCount := by decide +kernel

theorem scaled_mostDigits : ∀ i < 21,
    (scaled 4 (ofNat (mostDigits (leastPower + i))) (leastPower + i : Nat)).isSome = true := by
  decide +kernel

theorem units_infinityRank_lt : 2 * units infinityRank < 10 ^ (maxPower + 1) * unitsPerOne := by
  decide +kernel

theorem topMiddle_lt : topMiddle < 2 * (10 ^ (maxPower + 1) * unitsPerOne) :=
  calc topMiddle ≤ units infinityRank + units infinityRank :=
        Nat.add_le_add (units_mono (by decide)) (units_mono (by decide))
    _ = 2 * units infinityRank := (Nat.two_mul _).symm
    _ < 10 ^ (maxPower + 1) * unitsPerOne := units_infinityRank_lt
    _ ≤ 2 * (10 ^ (maxPower + 1) * unitsPerOne) := Nat.le_mul_of_pos_left _ (by decide)

theorem zero_same : (ofNat 0).same 0 = true := same_refl nofun

/-- What is not above the middle below the greatest number does not become too great. -/
theorem scaled_isSome {m e : Nat} (hm : m ≤ maxCount)
    (h : 2 * (m * (10 ^ e * unitsPerOne)) ≤ topMiddle) :
    (scaled 4 (ofNat m) e).isSome = true := by
  have hpos : 0 < 2 * (10 ^ e * unitsPerOne) :=
    Nat.mul_pos (by decide) (Nat.mul_pos (Nat.pow_pos (by decide)) unitsPerOne_pos)
  by_cases hlow : e ≤ leastPower
  · refine scaled_isSome_of_le ?_ hlow (by decide) (scaled_mostDigits 0 (by decide))
    exact Nat.le_trans hm (Nat.le_of_eq mostDigits_leastPower.symm)
  · by_cases hhigh : e ≤ maxPower
    · have hsum : leastPower + (e - leastPower) = e := by omega
      have htable := scaled_mostDigits (e - leastPower)
        (Nat.lt_succ_of_le (Nat.sub_le_sub_right hhigh leastPower))
      rw [hsum] at htable
      refine scaled_isSome_of_le ?_ (Nat.le_refl e) hhigh htable
      refine Nat.le_min.mpr ⟨hm, (Nat.le_div_iff_mul_le hpos).mpr ?_⟩
      rw [Nat.mul_left_comm]
      exact h
    · have hzero : m = 0 := by
        by_contra hne
        have hpow : 10 ^ (maxPower + 1) ≤ 10 ^ e :=
          Nat.pow_le_pow_right (by decide) (Nat.lt_of_not_le hhigh)
        have hle : 2 * (10 ^ (maxPower + 1) * unitsPerOne) ≤ topMiddle :=
          calc 2 * (10 ^ (maxPower + 1) * unitsPerOne) ≤ 2 * (10 ^ e * unitsPerOne) :=
                Nat.mul_le_mul_left _ (Nat.mul_le_mul_right _ hpow)
            _ ≤ 2 * (m * (10 ^ e * unitsPerOne)) :=
                Nat.mul_le_mul_left _ (Nat.le_mul_of_pos_left _ (Nat.pos_of_ne_zero hne))
            _ ≤ topMiddle := h
        exact Nat.not_lt.mpr hle topMiddle_lt
      subst hzero
      rw [scaled, if_neg (by simpa using hhigh), if_pos zero_same]
      rfl

theorem ofParts_isFloat {negative : Bool} {digits : Nat} {exponent : Int}
    (h : (scaled 4 (ofNat digits) exponent).isSome = true) :
    ∃ x, ofParts negative digits exponent = float x := by
  obtain ⟨y, hy⟩ := Option.isSome_iff_exists.mp h
  rw [ofParts, hy]
  exact ⟨_, rfl⟩

/-! ## Every finite float is read -/

theorem pow_le_digits {d : Decimal} (h : d.digits ≠ 0) :
    10 ^ ((decimalDigits d.digits).length - 1) ≤ d.digits := by
  rcases Nat.lt_or_ge 1 (decimalDigits d.digits).length with hlong | hshort
  · have hnot := mt (length_decimalDigits_le_iff (n := d.digits)
      (k := (decimalDigits d.digits).length - 1) (by omega)).mpr (by omega)
    exact Nat.le_of_not_lt hnot
  · have hzero : (decimalDigits d.digits).length - 1 = 0 := by omega
    rw [hzero]
    exact Nat.pos_of_ne_zero h

/-- The exponent that is written is small. -/
theorem point_le {d : Decimal} {rank : Nat} (h : d.Denotes rank) (hrank : rank < infinityRank)
    (hdigits : d.digits ≠ 0) : (d.point - 1).natAbs ≤ maxExponent := by
  have hlength := List.length_pos_iff.mpr (decimalDigits_ne_nil d.digits)
  have hpoint : d.point = (decimalDigits d.digits).length + d.exponent := rfl
  have hexponent := h.le_exponent
  have hmiddle : units rank + units (rank + 1) ≤ 2 * units infinityRank := by
    have := units_mono (Nat.le_of_lt hrank)
    have := units_mono (show rank + 1 ≤ infinityRank from hrank)
    omega
  have hpow : 10 ^ ((decimalDigits d.digits).length - 1 + d.exponent.toNat)
      < 10 ^ (maxPower + 1 + (-d.exponent).toNat) := by
    refine Nat.lt_of_mul_lt_mul_right (a := unitsPerOne) ?_
    calc 10 ^ ((decimalDigits d.digits).length - 1 + d.exponent.toNat) * unitsPerOne
        ≤ d.digits * 10 ^ d.exponent.toNat * unitsPerOne := by
          rw [Nat.pow_add]
          exact Nat.mul_le_mul_right _ (Nat.mul_le_mul_right _ (pow_le_digits hdigits))
      _ = d.num := by rw [Decimal.num, Nat.mul_assoc]
      _ ≤ 2 * d.num := Nat.le_mul_of_pos_left _ (by decide)
      _ ≤ (units rank + units (rank + 1)) * d.den := h.le_middle
      _ ≤ 2 * units infinityRank * d.den := Nat.mul_le_mul_right _ hmiddle
      _ < 10 ^ (maxPower + 1) * unitsPerOne * d.den :=
          Nat.mul_lt_mul_of_pos_right units_infinityRank_lt d.den_pos
      _ = 10 ^ (maxPower + 1 + (-d.exponent).toNat) * unitsPerOne := by
          rw [Decimal.den, Nat.pow_add]
          ring
  have hlt := (Nat.pow_lt_pow_iff_right (by decide)).mp hpow
  have hmax : 1074 + maxPower ≤ maxExponent := by decide
  omega

theorem shortest_zero : shortest .toEven 0 = ⟨0, 0⟩ := rfl

theorem shortest_point_le {rank : Nat} (hrank : rank < infinityRank) :
    ((shortest .toEven rank).point - 1).natAbs ≤ maxExponent := by
  have hdenotes := shortest_denotes .toEven hrank
  by_cases hdigits : (shortest .toEven rank).digits = 0
  · have hzero : rank = 0 := by
      rw [← hdenotes.nearest, Decimal.num, hdigits, Nat.zero_mul]
      exact nearestRank_nothing (Decimal.den_pos _)
    rw [hzero, shortest_zero]
    decide
  · exact point_le hdenotes hrank hdigits

/-- What is read of a decimal is not more than the decimal. -/
theorem ReadAs.le_middle {d : Decimal} {negative : Bool} {value : Json} {m k rank : Nat}
    (h : ReadAs d negative value m k) (hdenotes : d.Denotes rank) (hexponent : 0 ≤ d.exponent + k) :
    2 * (m * (10 ^ (d.exponent + k).toNat * unitsPerOne)) ≤ units rank + units (rank + 1) := by
  have hpow : k + d.exponent.toNat = (d.exponent + k).toNat + (-d.exponent).toNat := by omega
  refine Nat.le_of_mul_le_mul_right ?_ d.den_pos
  calc 2 * (m * (10 ^ (d.exponent + k).toNat * unitsPerOne)) * d.den
      = 2 * (m * 10 ^ (k + d.exponent.toNat) * unitsPerOne) := by
        rw [hpow, Nat.pow_add, Decimal.den]
        ring
    _ = 2 * (m * 10 ^ k * (10 ^ d.exponent.toNat * unitsPerOne)) := by
        rw [Nat.pow_add]
        ring
    _ ≤ 2 * d.num := Nat.mul_le_mul_left _ (Nat.mul_le_mul_right _ h.le)
    _ ≤ (units rank + units (rank + 1)) * d.den := hdenotes.le_middle

/-- The shortest decimal of the greatest number. -/
theorem shortest_top : (shortest .toEven (infinityRank - 1)).digits = 17976931348623157
    ∧ (shortest .toEven (infinityRank - 1)).exponent = 292 := by decide +kernel

theorem scaled_top : (scaled 4 (ofNat 17976931348623157) 292).isSome = true := by decide +kernel

theorem ReadAs.isFloat {negative : Bool} {value : Json} {m k rank : Nat}
    (h : ReadAs (shortest .toEven rank) negative value m k) (hrank : rank < infinityRank) :
    ∃ x, value = float x := by
  rw [h.value]
  refine ofParts_isFloat ?_
  by_cases hexponent : 0 ≤ (shortest .toEven rank).exponent + k
  · by_cases htop : rank = infinityRank - 1
    · subst htop
      obtain ⟨hdigits, hpower⟩ := shortest_top
      obtain ⟨hm, hk⟩ := h.all (by rw [hdigits]; decide)
      rw [hm, hk, hdigits, hpower]
      exact scaled_top
    · have hle := h.le_middle (shortest_denotes .toEven hrank) hexponent
      have hcast := Int.toNat_of_nonneg hexponent
      rw [← hcast]
      refine scaled_isSome h.le_max (Nat.le_trans hle ?_)
      exact Nat.add_le_add (units_mono (by omega)) (units_mono (by omega))
  · exact scaled_neg (by omega) 4 _

/-- A finite float that was written is read as a float. -/
theorem value_shortest_isFloat (negative : Bool) {rank : Nat} (hrank : rank < infinityRank) :
    ∃ x, (NumberText.ofDecimal negative (shortest .toEven rank)).value = float x := by
  by_cases hform : -5 < (shortest .toEven rank).point ∧ (shortest .toEven rank).point ≤ 16
  · rcases NumberText.value_positional negative hform with ⟨-, hvalue⟩ | ⟨m, k, hread⟩
    · rw [hvalue]
      exact ofParts_isFloat (scaled_neg (by decide) 4 _)
    · exact hread.isFloat hrank
  · obtain ⟨m, k, hread⟩ := NumberText.value_scientific negative hform (shortest_point_le hrank)
    exact hread.isFloat hrank

/-! ## Short floats -/

/-- A power of ten that is a number of the format. -/
theorem smallPower_exact {e : Nat} (h : e < 23) :
    ∃ rank hrank, ofDecimal false 1 e = signed false rank hrank ∧ rank < infinityRank
      ∧ units rank = 10 ^ e * unitsPerOne := by
  obtain ⟨hunits, hfinite⟩ := smallPower_units e h
  exact ⟨_, _, ofDecimal_one (Nat.le_of_lt (Nat.lt_trans h (by decide))), hfinite, hunits⟩

/-- A product or quotient of exact numbers is rounded once. -/
theorem scaled_exact {digits rank : Nat} {exponent : Int} (hrank : rank < infinityRank)
    (hdigits : digits < 2 ^ 53) (hexponent : exponent.natAbs < 23)
    (h : nearestRank (digits * (10 ^ exponent.toNat * unitsPerOne)) (10 ^ (-exponent).toNat)
      = rank) :
    scaled 4 (ofNat digits) exponent = some (signed false rank (Nat.le_of_lt hrank)) := by
  obtain ⟨a, ha, hnumber, hafinite, haunits⟩ := ofNat_exact hdigits
  obtain ⟨p, hp, hpower, hpfinite, hpunits⟩ := smallPower_exact hexponent
  have hsmall : exponent.natAbs ≤ maxPower := Nat.le_of_lt (Nat.lt_trans hexponent (by decide))
  rw [scaled, if_pos hsmall, hnumber]
  simp only [hpower]
  split
  · rename_i hnonneg
    have hone : (-exponent).toNat = 0 := by omega
    have habs : exponent.natAbs = exponent.toNat := by omega
    have hunits : units a * units p
        = digits * (10 ^ exponent.toNat * unitsPerOne) * unitsPerOne := by
      rw [haunits, hpunits, habs]
      ring
    have hproduct : nearestRank (units a * units p) unitsPerOne = rank := by
      rw [← h, hunits, hone, Nat.pow_zero, ← nearestRank_mul_right _ 1 unitsPerOne_pos, Nat.one_mul]
    rw [mul_signed_finite false hafinite hpfinite]
    subst hproduct
    rw [if_pos (by rw [isFinite]; exact decide_eq_true hrank)]
  · rename_i hneg
    have hone : exponent.toNat = 0 := by omega
    have habs : exponent.natAbs = (-exponent).toNat := by omega
    have hpos : 0 < p := by
      refine Nat.pos_of_ne_zero fun hzero => ?_
      have hnot : 0 < units p := by
        rw [hpunits]
        exact Nat.mul_pos (Nat.pow_pos (by decide)) unitsPerOne_pos
      rw [hzero] at hnot
      exact Nat.lt_irrefl 0 hnot
    have hquotient : nearestRank (units a * unitsPerOne) (units p) = rank := by
      rw [← h, haunits, hpunits, habs, hone, Nat.pow_zero, Nat.one_mul,
        nearestRank_mul_right _ _ unitsPerOne_pos]
    rw [div_unsigned hafinite hpfinite hpos]
    subst hquotient
    rfl

/-- The decimal has few digits, and its power of ten is small. -/
def Short (d : Decimal) : Prop :=
  d.exponent.natAbs < 23 ∧ d.digits * 10 ^ (d.exponent + 1).toNat < 2 ^ 53

instance (d : Decimal) : Decidable (Short d) := inferInstanceAs (Decidable (_ ∧ _))

theorem ofParts_eq {negative : Bool} {digits rank : Nat} {exponent : Int}
    (hrank : rank < infinityRank)
    (h : scaled 4 (ofNat digits) exponent = some (signed false rank (Nat.le_of_lt hrank))) :
    ofParts negative digits exponent = float (signed negative rank (Nat.le_of_lt hrank)) := by
  rw [ofParts, h]
  cases negative <;> rfl

/-- A short decimal of a number is read as the number. -/
theorem value_of_short (negative : Bool) {d : Decimal} {rank : Nat} (hrank : rank < infinityRank)
    (hdenotes : d.Denotes rank) (hshort : Short d) :
    (NumberText.ofDecimal negative d).value
      = float (signed negative rank (Nat.le_of_lt hrank)) := by
  obtain ⟨hexponent, hdigits⟩ := hshort
  have hnearest := hdenotes.nearest
  have hdirect : ∀ {value m k}, ReadAs d negative value m k →
      value = float (signed negative rank (Nat.le_of_lt hrank)) := by
    intro value m k hread
    have hlt : d.digits < 2 ^ 53 :=
      Nat.lt_of_le_of_lt (Nat.le_mul_of_pos_right _ (Nat.pow_pos (by decide))) hdigits
    obtain ⟨rfl, rfl⟩ := hread.all (Nat.le_trans (Nat.le_of_lt hlt) (by decide))
    rw [hread.value, Int.natCast_zero, Int.add_zero]
    exact ofParts_eq hrank (scaled_exact hrank hlt hexponent hnearest)
  by_cases hform : -5 < d.point ∧ d.point ≤ 16
  · rcases NumberText.value_positional negative hform with ⟨hnonneg, hvalue⟩ | ⟨m, k, hread⟩
    · have hten : (d.exponent + 1).toNat = d.exponent.toNat + 1 := by omega
      have hone : (-d.exponent).toNat = 0 := by omega
      have hnum : d.num * 10 = d.digits * 10 ^ d.exponent.toNat * 10
          * (10 ^ (-1 : Int).toNat * unitsPerOne) := by
        have hzero : (-1 : Int).toNat = 0 := rfl
        rw [Decimal.num, hzero, Nat.pow_zero]
        ring
      have hten' : (10 : Nat) ^ (-(-1) : Int).toNat = 1 * 10 := rfl
      rw [hten, Nat.pow_succ, ← Nat.mul_assoc] at hdigits
      rw [Decimal.den, hone, Nat.pow_zero] at hnearest
      rw [hvalue]
      refine ofParts_eq hrank (scaled_exact hrank hdigits (by decide) ?_)
      rw [← hnum, hten', nearestRank_mul_right _ _ (by decide), hnearest]
    · exact hdirect hread
  · have hlength : (decimalDigits d.digits).length ≤ 16 := by
      refine (length_decimalDigits_le_iff (by decide)).mpr ?_
      calc d.digits ≤ d.digits * 10 ^ (d.exponent + 1).toNat :=
            Nat.le_mul_of_pos_right _ (Nat.pow_pos (by decide))
        _ < 2 ^ 53 := hdigits
        _ ≤ 10 ^ 16 := by decide
    have hpoint : d.point = (decimalDigits d.digits).length + d.exponent := rfl
    have hmax : 100 ≤ maxExponent := by decide
    obtain ⟨m, k, hread⟩ := NumberText.value_scientific negative hform (by omega)
    exact hdirect hread

/-! ## Written and read -/

/-- What is read of a finite number that is written. -/
def reread : Binary64 → Binary64
  | .nan => .nan
  | .signed negative rank h =>
    match (NumberText.ofDecimal negative (shortest .toEven rank)).value with
    | .float x => x
    | _ => .signed negative rank h

theorem isFinite_iff {x : Binary64} : x.isFinite = true ↔
    ∃ negative rank h, x = .signed negative rank h ∧ rank < infinityRank := by
  cases x with
  | nan => simp [isFinite]
  | signed negative rank h =>
      rw [isFinite, decide_eq_true_eq]
      constructor
      · exact fun hlt => ⟨negative, rank, h, rfl, hlt⟩
      · rintro ⟨negative', rank', h', heq, hlt⟩
        exact (signed.inj heq).2 ▸ hlt

/-- A finite number has a text, and a number is read of it. -/
theorem floatText_spec {x : Binary64} (h : x.isFinite = true) :
    ∃ t : NumberText, t.Valid ∧ floatText x = t.text ∧ t.value = float (reread x) := by
  obtain ⟨negative, rank, hle, rfl, hrank⟩ := isFinite_iff.mp h
  refine ⟨_, NumberText.valid_ofDecimal negative (shortest .toEven rank), ?_, ?_⟩
  · rw [floatText, if_neg (Nat.ne_of_lt hrank), NumberText.text_ofDecimal]
  · obtain ⟨y, hy⟩ := value_shortest_isFloat negative hrank
    rw [reread, hy]

/-- The shortest decimal of the number is short. -/
def IsShort : Binary64 → Prop
  | .nan => False
  | .signed _ rank _ => rank < infinityRank ∧ Short (shortest .toEven rank)

instance : DecidablePred IsShort
  | .nan => inferInstanceAs (Decidable False)
  | .signed _ rank _ =>
    inferInstanceAs (Decidable (rank < infinityRank ∧ Short (shortest .toEven rank)))

theorem reread_of_isShort {x : Binary64} (h : IsShort x) : reread x = x := by
  cases x with
  | nan => exact h.elim
  | signed negative rank hle =>
      obtain ⟨hrank, hshort⟩ := h
      rw [reread, value_of_short negative hrank (shortest_denotes .toEven hrank) hshort]

end Json

end Gapfill
