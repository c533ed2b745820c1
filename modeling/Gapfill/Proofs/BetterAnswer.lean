import Mathlib.Data.List.Forall2
import Gapfill.Proofs.GradeClass
import Gapfill.Proofs.Number.Order

/-!
# Better answers

A cloze response that earns no less in any gap than another one gets no lower a
grade. What the gaps earn is added up and divided by the sum of their points, and
each step is rounded; but rounding keeps the order, and both sums go through the
gaps in the same order. So the sums compare as their summands do
(`sum_atMost`), the quotients as the sums (`AtMost.div`), and the classes as the
quotients (`Classification.level_ofFraction_mono`).

For the same reason nothing is lost if every gap earns all of its points: then
both sums are the same number, and the fraction is one.
-/

namespace Gapfill

open Binary64 (AtMost Unsigned)

/-- The place of a class in the order: wrong, partial, right. -/
def Classification.level : Classification → Nat
  | wrong => 0
  | partly => 1
  | right => 2

theorem Classification.level_ofFraction_mono {x y : Binary64} (h : x.le y = true) :
    (ofFraction x).level ≤ (ofFraction y).level := by
  have hone : Binary64.le 1 0 = false := by decide +kernel
  unfold ofFraction
  by_cases hy : y.le 0 = true
  · rw [if_pos (Binary64.le_trans h hy)]
    exact Nat.zero_le _
  · rw [if_neg hy]
    split
    · exact Nat.zero_le _
    · split
      · rename_i hx
        rw [if_pos (Binary64.le_trans hx h)]
      · split <;> decide

/-- Sums of numbers without sign compare as their summands do. -/
theorem Binary64.sum_atMost {xs ys : List Binary64} (hne : xs ≠ [])
    (hxs : ∀ x ∈ xs, Unsigned x) (hys : ∀ y ∈ ys, Unsigned y)
    (h : List.Forall₂ (fun x y => x.le y = true) xs ys) : AtMost (sum xs) (sum ys) := by
  obtain ⟨hlength, hle⟩ := List.forall₂_iff_zip.mp h
  have hfst := List.map_fst_zip (Nat.le_of_eq hlength)
  have hsnd := List.map_snd_zip (Nat.le_of_eq hlength.symm)
  have hsum : AtMost (sum ((xs.zip ys).map Prod.fst)) (sum ((xs.zip ys).map Prod.snd)) := by
    refine AtMost.sum (fun hnil => hne ?_) fun entry hentry => ?_
    · rw [← hfst, hnil, List.map_nil]
    · obtain ⟨hx, hy⟩ := List.of_mem_zip hentry
      exact (hxs _ hx).atMost (hys _ hy) (hle hentry)
  rwa [hfst, hsnd] at hsum

namespace Grade.FiniteTotal

variable {flavor : Flavor} {fields : List Field} (h : FiniteTotal flavor fields) (limits : Limits)

include h

theorem fraction_atMost {answers answers' : GapAnswers}
    (hbetter : List.Forall₂ (fun o o' : Outcome => o.earned.le o'.earned = true)
      (clozeOutcomes limits answers fields) (clozeOutcomes limits answers' fields)) :
    AtMost (ofCloze limits fields answers).fraction (ofCloze limits fields answers').fraction := by
  have hunsigned : ∀ answers, ∀ x ∈ (clozeOutcomes limits answers fields).map (·.earned),
      Unsigned x := fun answers => List.forall_mem_map.mpr fun outcome houtcome =>
    (h.atMost limits answers outcome houtcome).unsigned.1
  have hsum := Binary64.sum_atMost (mt List.map_eq_nil_iff.mp (h.outcomes_ne_nil limits answers))
    (hunsigned answers) (hunsigned answers')
    (List.forall₂_map_left_iff.mpr (List.forall₂_map_right_iff.mpr hbetter))
  rw [h.fraction limits answers, h.fraction limits answers']
  exact hsum.div ((h.earned_atMost limits answers').isFinite h.finite) h.total_positive h.finite

theorem fraction_eq_one {answers : GapAnswers}
    (hall : ∀ outcome ∈ clozeOutcomes limits answers fields,
      outcome.earned.same outcome.most = true) :
    (ofCloze limits fields answers).fraction = 1 := by
  have hsame : ∀ outcome ∈ clozeOutcomes limits answers fields,
      outcome.earned = outcome.most := fun outcome houtcome =>
    have hunsigned := (h.atMost limits answers outcome houtcome).unsigned
    hunsigned.1.eq_of_same hunsigned.2 (hall outcome houtcome)
  rw [h.fraction limits answers, List.map_congr_left hsame, clozeOutcomes_most]
  obtain ⟨m, hm, hpoints, hpos⟩ := h.total_positive
  have hfinite := h.finite
  rw [hpoints] at hfinite ⊢
  exact Binary64.div_self_finite hpos (of_decide_eq_true hfinite)

end Grade.FiniteTotal

namespace Question

/-- A cloze response to a question that was built, with finitely many points, gets no lower a grade
than one that earns no more in any gap. If all gaps earn their points, the fraction is one. -/
theorem grade_mono {authored : AuthoredQuestion} {question : Question}
    (hbuild : authored.build = .ok question) (hcloze : question.flavor = .cloze)
    (hfinite : question.maxPoints.isFinite = true) (limits : Limits)
    (answers answers' : GapAnswers) :
    let grade := question.grade limits (.cloze answers)
    let grade' := question.grade limits (.cloze answers')
    (List.Forall₂ (fun o o' : Outcome => o.earned.le o'.earned = true)
        grade.outcomes grade'.outcomes →
      grade.fraction.le grade'.fraction = true
        ∧ grade.classification.level ≤ grade'.classification.level)
      ∧ ((∀ outcome ∈ grade.outcomes, outcome.earned.same outcome.most = true) →
        grade.fraction = 1) := by
  intro grade grade'
  obtain ⟨hfitted, hne⟩ := AuthoredQuestion.build_fitted hbuild
  have hmost : question.maxPoints = .sum (question.fields.map (·.points)) := by
    unfold maxPoints
    rw [hcloze]
  have htotal : Grade.FiniteTotal question.flavor question.fields :=
    ⟨hne hcloze, fun field hfield => (hfitted field hfield).toSound, hmost ▸ hfinite⟩
  refine ⟨fun hbetter => ?_, htotal.fraction_eq_one limits⟩
  have hle := (htotal.fraction_atMost limits hbetter).bounds.2
  exact ⟨hle, Classification.level_ofFraction_mono hle⟩

/-- The text for the second gap does not lower the grade, and with it the fraction is one. -/
theorem grade_mono_two_gaps :
    twoGaps.build = .ok twoGapsBuilt
      ∧ (twoGapsBuilt.grade .default (.cloze [(1, "a")])).fraction.le
          (twoGapsBuilt.grade .default (.cloze [(1, "a"), (2, "b")])).fraction = true
      ∧ (twoGapsBuilt.grade .default (.cloze [(1, "a")])).classification.level
          ≤ (twoGapsBuilt.grade .default (.cloze [(1, "a"), (2, "b")])).classification.level
      ∧ (twoGapsBuilt.grade .default (.cloze [(1, "a"), (2, "b")])).fraction = 1 := by
  have hfinite : twoGapsBuilt.maxPoints.isFinite = true := by decide +kernel
  obtain ⟨hbetter, -⟩ := grade_mono twoGaps_build rfl hfinite .default [(1, "a")]
    [(1, "a"), (2, "b")]
  obtain ⟨-, hall⟩ := grade_mono twoGaps_build rfl hfinite .default [(1, "a"), (2, "b")] []
  obtain ⟨hfraction, hlevel⟩ := hbetter (by decide +kernel)
  exact ⟨twoGaps_build, hfraction, hlevel, hall (by decide +kernel)⟩

end Question

end Gapfill
