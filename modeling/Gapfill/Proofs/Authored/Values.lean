import Mathlib.Tactic.Ring
import Gapfill.Authored.Keys
import Gapfill.Proofs.Number.Digits
import Gapfill.Proofs.Number.Rounding

/-!
# What the values of keys denote

A number in a key line is judged by its digits first and then read. The second
step refuses nothing that the first let pass: a text for points has a digit other
than zero not later than right behind the point, so the decimal is at least a
tenth and rounds to no less than a sixteenth, however many digits there are
(`readPoints_eq`). A size is at least one for the same reason
(`one_le_of_readSize`).
-/

namespace Gapfill

/-! ## Digits -/

theorem one_le_digit {c : Char} (h : isNonzeroDigit c = true) : 1 ≤ c.toNat - '0'.toNat := by
  obtain ⟨hdigit, hne⟩ := Bool.and_eq_true_iff.mp h
  have hlow := (Char.isDigit_iff_toNat.mp hdigit).1
  have hzero : c.toNat ≠ '0'.toNat := fun heq => bne_iff_ne.mp hne (Char.toNat_inj.mp heq)
  omega

/-- The first digit other than zero tells how great a number is at least. -/
theorem pow_le_ofDecimalDigits {c : Char} (h : isNonzeroDigit c = true) (v : List Char) :
    10 ^ v.length ≤ ofDecimalDigits (c :: v) := by
  rw [ofDecimalDigits_cons]
  calc 10 ^ v.length ≤ (c.toNat - '0'.toNat) * 10 ^ v.length :=
        Nat.le_mul_of_pos_left _ (one_le_digit h)
    _ ≤ _ := Nat.le_add_right _ _

theorem ofDecimalDigits_pos {digits : List Char} (h : digits.any isNonzeroDigit = true) :
    1 ≤ ofDecimalDigits digits := by
  obtain ⟨c, hmem, hc⟩ := List.any_eq_true.mp h
  obtain ⟨u, v, rfl⟩ := List.append_of_mem hmem
  rw [ofDecimalDigits_append]
  calc 1 ≤ 10 ^ v.length := Nat.one_le_pow _ _ (by decide)
    _ ≤ ofDecimalDigits (c :: v) := pow_le_ofDecimalDigits hc v
    _ ≤ _ := Nat.le_add_left _ _

/-! ## Sizes -/

/-- A positive whole number that is not too great. -/
structure IsSizeText (value : List Char) : Prop where
  digits : ∀ c ∈ value, c.isDigit = true
  nonzero : ∃ c ∈ value, c ≠ '0'
  le_max : ofDecimalDigits value ≤ maxSize

instance (value : List Char) : Decidable (IsSizeText value) :=
  decidable_of_iff (value.all Char.isDigit = true ∧ value.any (· != '0') = true
      ∧ ofDecimalDigits value ≤ maxSize) (by
    simp only [List.all_eq_true, List.any_eq_true, bne_iff_ne]
    exact ⟨fun ⟨hdigits, hnonzero, hle⟩ => ⟨hdigits, hnonzero, hle⟩,
      fun ⟨hdigits, hnonzero, hle⟩ => ⟨hdigits, hnonzero, hle⟩⟩)

/-- Every text of the form for sizes is read. -/
theorem readSize_eq {value : List Char} (h : IsSizeText value) :
    readSize value = some (ofDecimalDigits value) := by
  obtain ⟨c, hmem, hc⟩ := h.nonzero
  have hany : value.any isNonzeroDigit = true :=
    List.any_eq_true.mpr ⟨c, hmem, Bool.and_eq_true_iff.mpr ⟨h.digits c hmem, bne_iff_ne.mpr hc⟩⟩
  unfold readSize
  rw [List.all_eq_true.mpr h.digits, hany, decide_eq_true h.le_max]
  rfl

theorem one_le_of_readSize {value : List Char} {size : Nat} (h : readSize value = some size) :
    1 ≤ size := by
  unfold readSize at h
  split at h
  · rename_i hvalid
    simp only [Bool.and_eq_true] at hvalid
    obtain rfl := Option.some.inj h
    exact ofDecimalDigits_pos hvalid.1.2
  · simp at h

/-! ## Points -/

/-- The number that digits with a point among them denote. -/
def pointsOf (value : List Char) : Binary64 :=
  .ofDigits false (value.takeWhile Char.isDigit) ((value.dropWhile Char.isDigit).drop 1) 0

/-- The rank of one sixteenth. -/
def Binary64.sixteenthRank : Nat := 1019 * binade

theorem Binary64.units_sixteenthRank : units sixteenthRank * 16 = unitsPerOne := by decide +kernel

theorem Binary64.sixteenthRank_pos : 0 < sixteenthRank := by decide

/-- The number is not less than a sixteenth. It may be infinity. -/
def Binary64.AtLeastSixteenth (x : Binary64) : Prop :=
  ∃ rank h, x = signed false rank h ∧ sixteenthRank ≤ rank

theorem Binary64.AtLeastSixteenth.positive {x : Binary64} (h : x.AtLeastSixteenth) :
    x.Positive := by
  obtain ⟨rank, hrank, rfl, hle⟩ := h
  exact ⟨rank, hrank, rfl, Nat.lt_of_lt_of_le sixteenthRank_pos hle⟩

/-- A decimal of at least a tenth does not round to less than a sixteenth. -/
theorem Binary64.ofDecimal_atLeastSixteenth {m places : Nat} (h : 10 ^ places ≤ 10 * m) :
    (ofDecimal false m (0 - places)).AtLeastSixteenth := by
  have hm : m ≠ 0 := by
    rintro rfl
    exact absurd h (Nat.not_le.mpr (Nat.pow_pos (by decide)))
  have hlog : 3 * places ≤ m.log2 + 3 := by
    cases places with
    | zero => exact Nat.zero_le _
    | succ k =>
        have hpow : 2 ^ (3 * k) ≤ m := by
          rw [pow_succ, Nat.mul_comm] at h
          calc 2 ^ (3 * k) = 8 ^ k := Nat.pow_mul 2 3 k
            _ ≤ 10 ^ k := Nat.pow_le_pow_left (by decide) k
            _ ≤ m := Nat.le_of_mul_le_mul_left h (by decide)
        have := (Nat.le_log2 hm).mpr hpow
        omega
  have hsixteenth : sixteenthRank < infinityRank := by decide
  have hunits : ∀ {n den : Nat}, den ≤ 10 * n → units sixteenthRank * den ≤ n * unitsPerOne := by
    intro n den hden
    calc units sixteenthRank * den ≤ units sixteenthRank * (16 * n) :=
          Nat.mul_le_mul_left _ (by omega)
      _ = n * unitsPerOne := by rw [← units_sixteenthRank]; ring
  unfold ofDecimal
  rw [if_neg hm]
  split
  · split
    · exact ⟨infinityRank, _, rfl, Nat.le_of_lt hsixteenth⟩
    · refine ⟨_, _, rfl, le_nearestRank hsixteenth Nat.one_pos (hunits ?_)⟩
      have := Nat.mul_pos (Nat.pos_of_ne_zero hm)
        (Nat.pow_pos (n := (0 - (places : Int)).toNat) (by decide : 0 < 10))
      change 1 ≤ 10 * (m * 10 ^ (0 - (places : Int)).toNat)
      omega
  · rw [if_neg (by omega)]
    have hden : (-(0 - (places : Int))).toNat = places := by omega
    refine ⟨_, _, rfl, le_nearestRank hsixteenth (Nat.pow_pos (by decide)) (hunits ?_)⟩
    rw [hden]
    exact h

theorem pow_le_of_whole {whole : List Char} (h : whole.any isNonzeroDigit = true)
    (places : List Char) : 10 ^ places.length ≤ 10 * ofDecimalDigits (whole ++ places) := by
  rw [ofDecimalDigits_append]
  calc 10 ^ places.length ≤ ofDecimalDigits whole * 10 ^ places.length :=
        Nat.le_mul_of_pos_left _ (ofDecimalDigits_pos h)
    _ ≤ ofDecimalDigits whole * 10 ^ places.length + ofDecimalDigits places := Nat.le_add_right _ _
    _ ≤ _ := Nat.le_mul_of_pos_left _ (by decide)

theorem pow_le_of_tenth {c : Char} (h : isNonzeroDigit c = true) (whole places : List Char) :
    10 ^ (c :: places).length ≤ 10 * ofDecimalDigits (whole ++ c :: places) := by
  rw [ofDecimalDigits_append, List.length_cons, Nat.pow_succ, Nat.mul_comm (10 ^ places.length)]
  refine Nat.mul_le_mul_left 10 ?_
  calc 10 ^ places.length ≤ ofDecimalDigits (c :: places) := pow_le_ofDecimalDigits h places
    _ ≤ _ := Nat.le_add_left _ _

theorem pointsOf_atLeastSixteenth {value : List Char} (h : isPointsText value = true) :
    (pointsOf value).AtLeastSixteenth := by
  unfold isPointsText at h
  dsimp only at h
  refine Binary64.ofDecimal_atLeastSixteenth ?_
  obtain ⟨-, h⟩ := Bool.and_eq_true_iff.mp h
  split at h
  · rename_i hnone
    rw [hnone]
    exact pow_le_of_whole h _
  · rename_i places hplaces
    rw [hplaces]
    simp only [Bool.and_eq_true, Bool.or_eq_true] at h
    rcases h.2 with hwhole | hhead
    · exact pow_le_of_whole hwhole _
    · cases places with
      | nil => simp at hhead
      | cons c places => exact pow_le_of_tenth hhead _ _
  · exact absurd h Bool.false_ne_true

/-- Every text of the form for points is read. -/
theorem readPoints_eq {value : List Char} (h : isPointsText value = true) :
    readPoints value = some (pointsOf value) := by
  have hpositive : Binary64.lt 0 (pointsOf value) = true :=
    Binary64.positive_iff.mpr (pointsOf_atLeastSixteenth h).positive
  unfold pointsOf at hpositive ⊢
  unfold readPoints
  rw [if_pos h]
  dsimp only
  rw [if_pos hpositive]

theorem readPoints_atLeastSixteenth {value : List Char} {points : Binary64}
    (h : readPoints value = some points) : points.AtLeastSixteenth := by
  by_cases hform : isPointsText value = true
  · rw [readPoints_eq hform] at h
    exact Option.some.inj h ▸ pointsOf_atLeastSixteenth hform
  · rw [readPoints, if_neg hform] at h
    simp at h

/-! ## Separators -/

theorem readSeparator_ne_empty (value : List Char) : readSeparator value ≠ "" := by
  unfold readSeparator
  split
  · decide
  · rename_i hne
    exact mt String.ofList_eq_empty_iff.mp hne

end Gapfill
