import Gapfill.Proofs.BestMatch
import Gapfill.Proofs.GradeClass
import Gapfill.Proofs.Number.Weighing

/-!
# What the class of a field says

What an answer earns is compared with the points of the field without tolerance,
but it is a product of the points with two rounded quotients: the value of the
best match, and its weight as a share of the whole. So right means more than that
the numbers happen to be equal only if no share of the points is rounded up to all
of them, and wrong only if none is rounded down to nothing.

Points that are read from a text are at least a sixteenth, so they have an
exponent, and so does every product. A match earns all of the points exactly if
neither its value nor its weight takes anything from them
(`IsMatch.earned_eq_points_iff`), and something exactly if it has a weight
(`IsMatch.earned_positive_iff`). The best match earns the most, so the class says
what there is among all the sub-patterns (`grade_class`).
-/

namespace Gapfill

open Binary64 (AtLeastPow AtMost Positive quotientDen)

/-- Points that are read from a text, in units. -/
theorem Binary64.AtLeastSixteenth.atLeastPow {x : Binary64} (h : x.AtLeastSixteenth)
    (hfinite : x.isFinite = true) : AtLeastPow 1070 x := by
  obtain ⟨rank, hrank, rfl, hle⟩ := h
  refine ⟨rank, hrank, rfl, of_decide_eq_true hfinite, ?_⟩
  rw [← Binary64.units_pow (show 52 ≤ 1070 by decide)]
  exact Binary64.units_mono hle

namespace Field

/-- A sub-pattern of full weight that the answer matches without loss. -/
def MatchedInFull (limits : Limits) (field : Field) (answer : String) : Prop :=
  ∃ index sub, field.subPatterns[index]? = some sub ∧ sub.weight = fullWeight
    ∧ (field.evaluate limits index answer).value = 1

/-- A sub-pattern with a weight, against which the answer is worth something. -/
def MatchedInPart (limits : Limits) (field : Field) (answer : String) : Prop :=
  ∃ index sub, field.subPatterns[index]? = some sub ∧ 0 < sub.weight
    ∧ Binary64.lt 0 (field.evaluate limits index answer).value = true

/-- A field whose points are finite and those of a text, and none of whose sub-patterns has so many
expressions that a share of them is lost in a product. -/
structure Weighable (field : Field) : Prop where
  points : field.points.AtLeastSixteenth
  finite : field.points.isFinite = true
  weights : ∀ sub ∈ field.subPatterns, sub.weight ≤ fullWeight
  expressions : ∀ sub ∈ field.subPatterns, sub.regexes.length ≤ quotientDen

/-! ## One match -/

section

variable {limits : Limits} {field : Field} {answer : String} (h : field.Weighable)

include h

section

variable {m : BestMatch} (hm : field.IsMatch limits answer m)

include hm

/-- What a match earns, as a product of the points with two quotients, the first of which is not
nothing. -/
theorem IsMatch.earned_quotients :
    ∃ sub s n, field.subPatterns[m.subPattern]? = some sub ∧ sub.weight ≤ fullWeight
      ∧ 0 < s ∧ s ≤ n ∧ n ≤ quotientDen ∧ m.value = .ofNat s / .ofNat n
      ∧ m.earned
        = field.points * (.ofNat s / .ofNat n) * (.ofNat sub.weight / .ofNat fullWeight) := by
  obtain ⟨sub, hsub, hearned⟩ := hm.earned_eq
  have hmem := List.mem_of_getElem? hsub
  obtain ⟨s, n, hle, hpos, hn, hvalue⟩ :=
    Compiled.evaluate_quotient limits answer.toList sub field.separator
  have hden : n ≤ quotientDen :=
    Nat.le_trans hn (Nat.max_le.mpr ⟨h.expressions sub hmem, by decide⟩)
  rw [← evaluate_eq hsub, ← hm.value_eq] at hvalue
  have hmatched : Positive m.value := by
    rw [hm.value_eq]
    exact Binary64.positive_iff.mp hm.matched
  rw [hvalue] at hmatched hearned
  exact ⟨sub, s, n, hsub, h.weights sub hmem,
    (Binary64.ofNat_div_positive_iff hle hpos hden).mp hmatched, hle, hden, hvalue, hearned⟩

/-- No match earns more than the points. -/
theorem IsMatch.earned_atMost : AtMost m.earned field.points := by
  refine (hm.mayEarn h.points.positive h.weights).resolve_right ?_
  rintro ⟨-, hinfinite⟩
  exact Bool.false_ne_true (hinfinite.symm.trans h.finite)

/-- A match earns all of the points exactly if nothing is taken from them. -/
theorem IsMatch.earned_eq_points_iff :
    m.earned = field.points ↔ m.value = 1
      ∧ ∃ sub, field.subPatterns[m.subPattern]? = some sub ∧ sub.weight = fullWeight := by
  obtain ⟨sub, s, n, hsub, hweight, hs, hle, hn, hvalue, hearned⟩ := hm.earned_quotients h
  have hpoints := (h.points.atLeastPow h.finite).mono (show 102 ≤ 1070 by decide)
  rw [hearned, hpoints.mul_div_mul_div_eq_self_iff hs hle hn hweight (by decide) (by decide),
    hvalue, Binary64.ofNat_div_eq_one_iff hle (Nat.lt_of_lt_of_le hs hle)
      (Binary64.lt_pow_of_le_quotientDen hn)]
  simp [hsub]

/-- A match earns something exactly if it has a weight. -/
theorem IsMatch.earned_positive_iff :
    Positive m.earned ↔ ∃ sub, field.subPatterns[m.subPattern]? = some sub ∧ 0 < sub.weight := by
  obtain ⟨sub, s, n, hsub, hweight, hs, hle, hn, -, hearned⟩ := hm.earned_quotients h
  have hpoints := (h.points.atLeastPow h.finite).mono (show 152 ≤ 1070 by decide)
  have hproduct := AtLeastPow.mul_div hle (Nat.lt_of_lt_of_le hs hle) hn (i := 102) hpoints
    (by decide) hs
  rw [hearned, AtLeastPow.mul_div_positive_iff hweight (by decide) (by decide) (i := 52) hproduct
    (by decide)]
  simp [hsub]

end

/-! ## The best match -/

/-- What the answer earns is what the best match does, and nothing without a match. -/
theorem earned_cases :
    ((field.grade limits (some answer)).earned = 0 ∧ ∀ m, ¬ field.IsMatch limits answer m)
      ∨ ∃ b, (field.grade limits (some answer)).earned = b.earned
        ∧ field.IsMatch limits answer b
        ∧ ∀ m, field.IsMatch limits answer m → AtMost m.earned b.earned := by
  have hunsigned := fun m (hm : field.IsMatch limits answer m) => (hm.earned_atMost h).unsigned.1
  rcases best?_cases fun m hm => (hunsigned m hm).ne_nan with ⟨hnone, hno⟩ | ⟨b, hb, hfirst⟩
  · exact Or.inl ⟨grade_earned_of_none hnone, hno⟩
  · exact Or.inr ⟨b, grade_earned_of_some hb, hfirst.toIsMatch, fun m hm =>
      (hunsigned m hm).atMost (hunsigned b hfirst.toIsMatch) (hfirst.most m hm)⟩

theorem earned_atMost (limits : Limits) (answer : String) :
    AtMost (field.grade limits (some answer)).earned field.points := by
  rcases earned_cases h with ⟨hzero, -⟩ | ⟨b, hearned, hb, -⟩
  · rw [hzero]
    exact h.points.positive.zero_atMost
  · rw [hearned]
    exact hb.earned_atMost h

theorem earned_eq_points_iff :
    (field.grade limits (some answer)).earned = field.points
      ↔ field.MatchedInFull limits answer := by
  constructor
  · intro heq
    rcases earned_cases h with ⟨hzero, -⟩ | ⟨b, hearned, hb, -⟩
    · exact absurd (heq.symm.trans hzero) (Positive.ne_zero h.points.positive)
    · obtain ⟨hvalue, sub, hsub, hfull⟩ := (hb.earned_eq_points_iff h).mp (hearned.symm.trans heq)
      exact ⟨b.subPattern, sub, hsub, hfull, hb.value_eq.symm.trans hvalue⟩
  · rintro ⟨index, sub, hsub, hfull, hvalue⟩
    have hmatched : (field.evaluate limits index answer).matched = true := by
      rw [MatchResult.matched, hvalue]
      decide +kernel
    obtain ⟨m, hm, rfl⟩ := exists_isMatch hmatched
    have hwhole := (hm.earned_eq_points_iff h).mpr ⟨hm.value_eq.trans hvalue, sub, hsub, hfull⟩
    rcases earned_cases h with ⟨-, hno⟩ | ⟨b, hearned, hb, hmost⟩
    · exact absurd hm (hno m)
    · rw [hearned]
      exact (hb.earned_atMost h).antisymm (hwhole ▸ hmost m hm)

theorem earned_positive_iff :
    Positive (field.grade limits (some answer)).earned ↔ field.MatchedInPart limits answer := by
  constructor
  · intro hpositive
    rcases earned_cases h with ⟨hzero, -⟩ | ⟨b, hearned, hb, -⟩
    · exact absurd hzero (Positive.ne_zero hpositive)
    · obtain ⟨sub, hsub, hweight⟩ := (hb.earned_positive_iff h).mp (hearned ▸ hpositive)
      exact ⟨b.subPattern, sub, hsub, hweight, hb.matched⟩
  · rintro ⟨index, sub, hsub, hweight, hmatched⟩
    obtain ⟨m, hm, rfl⟩ := exists_isMatch hmatched
    have hsome := (hm.earned_positive_iff h).mpr ⟨sub, hsub, hweight⟩
    rcases earned_cases h with ⟨-, hno⟩ | ⟨b, hearned, -, hmost⟩
    · exact absurd hm (hno m)
    · rw [hearned]
      exact Positive.of_atMost hsome (hmost m hm)

end

/-! ## The class -/

/-- The three classes of a field that was read from a text, with finite points and less than
`2 ^ 50` expressions in each sub-pattern. Right is an answer that matches a sub-pattern of full
weight without loss, and wrong is one that is worth nothing against all sub-patterns with a weight.
What is earned lies between nothing and the points. -/
theorem grade_class {flavor : Flavor} {text : String} {field : Field}
    (hparse : Field.parse flavor text = .ok field) (hfinite : field.points.isFinite = true)
    (hfew : ∀ sub ∈ field.subPatterns, sub.regexes.length < 2 ^ 50) (limits : Limits)
    (answer : String) :
    let outcome := field.grade limits (some answer)
    (outcome.classification = .right ↔ field.MatchedInFull limits answer)
      ∧ (outcome.classification = .wrong ↔ ¬ field.MatchedInPart limits answer)
      ∧ (outcome.classification = .partly ↔
        field.MatchedInPart limits answer ∧ ¬ field.MatchedInFull limits answer)
      ∧ Binary64.le 0 outcome.earned = true ∧ outcome.earned.le field.points = true := by
  intro outcome
  have h : field.Weighable := ⟨parse_points hparse, hfinite, (parse_sound hparse).weights,
    fun sub hsub => Nat.le_of_lt (hfew sub hsub)⟩
  have hatMost := earned_atMost h limits answer
  have hclass : outcome.classification = .ofPoints outcome.earned field.points := rfl
  have hright : outcome.classification = .right ↔ field.MatchedInFull limits answer := by
    rw [hclass, Classification.ofPoints_eq_right_iff hatMost h.points.positive]
    exact earned_eq_points_iff h
  have hwrong : outcome.classification = .wrong ↔ ¬ field.MatchedInPart limits answer := by
    rw [hclass, Classification.ofPoints_eq_wrong_iff hatMost, ← earned_positive_iff h]
    exact Binary64.Unsigned.eq_zero_iff hatMost.unsigned.1
  refine ⟨hright, hwrong, ?_, hatMost.bounds⟩
  rw [← hright, ← not_not (a := field.MatchedInPart limits answer), ← hwrong]
  cases outcome.classification <;> simp

/-- Both lines are right. One of them is worth half of the points, in two ways. -/
theorem grade_class_twoLines :
    Field.parse .cloze (String.ofList twoLinesText) = .ok twoLines
      ∧ twoLines.points.isFinite = true
      ∧ (∀ sub ∈ twoLines.subPatterns, sub.regexes.length < 2 ^ 50)
      ∧ (twoLines.grade .default (some "b;a")).classification = .right
      ∧ ((twoLines.grade .default (some "b")).classification = .partly ↔
        twoLines.MatchedInPart .default "b" ∧ ¬ twoLines.MatchedInFull .default "b") := by
  have hparse : Field.parse .cloze (String.ofList twoLinesText) = .ok twoLines :=
    parse_ofList (by decide +kernel)
  have hfinite : twoLines.points.isFinite = true := by decide +kernel
  have hfew : ∀ sub ∈ twoLines.subPatterns, sub.regexes.length < 2 ^ 50 := by decide +kernel
  obtain ⟨hright, -⟩ := grade_class hparse hfinite hfew .default "b;a"
  obtain ⟨-, -, hpartly, -⟩ := grade_class hparse hfinite hfew .default "b"
  exact ⟨hparse, hfinite, hfew, hright.mpr ⟨0, _, rfl, rfl, by decide +kernel⟩, hpartly⟩

end Field

end Gapfill
