import Gapfill.Proofs.Grading
import Gapfill.Proofs.Number.Sums

/-!
# Bounds of a grade

A gap earns at most its points, and a response at most everything that can be
earned: products with shares and sums keep the order. This is all that is needed
for a grade to stay between zero and one, as long as no infinity comes in.

But points have no upper bound. The text of a number beyond the format is read
as infinity, and finite points may add up to it. Infinity as a part of infinity
is no number, and neither is a part of none of it. So a grade keeps its bounds
exactly if what is earned adds up to a finite number (`grade_inRange_iff`), and
a right answer for infinitely many points gets no grade at all
(`right_answer_without_fraction`).
-/

namespace Gapfill

open Binary64 (AtMost Share Positive)

/-- The fraction lies between zero and one, and every gap earns no less than nothing and no more
than its most. None of these is NaN, which compares with nothing. -/
structure Grade.InRange (grade : Grade) : Prop where
  fraction : Binary64.le 0 grade.fraction = true ∧ grade.fraction.le 1 = true
  outcomes : ∀ outcome ∈ grade.outcomes,
    Binary64.le 0 outcome.earned = true ∧ outcome.earned.le outcome.most = true

/-! ## One gap -/

namespace Field

/-- At most the points of the field, or no number, which comes of infinitely many points only. -/
def MayEarn (field : Field) (earned : Binary64) : Prop :=
  AtMost earned field.points ∨ earned = .nan ∧ field.points.isFinite = false

theorem IsMatch.mayEarn {limits : Limits} {field : Field} {answer : String} {m : BestMatch}
    (hm : field.IsMatch limits answer m) (hpoints : field.points.Positive)
    (hweights : ∀ sub ∈ field.subPatterns, sub.weight ≤ fullWeight) :
    field.MayEarn m.earned := by
  obtain ⟨sub, hsub, hearned⟩ := hm.earned_eq
  have hweight := SubPattern.weightFraction_share (hweights sub (List.mem_of_getElem? hsub))
  rw [hearned]
  rcases hpoints.atMost_self.mul_share hm.value_share with hle | ⟨hnan, hinfinite⟩
  · rcases hle.mul_share hweight with hle' | ⟨hnan, hinfinite⟩
    · exact Or.inl hle'
    · refine Or.inr ⟨hnan, Bool.eq_false_iff.mpr fun hfinite => ?_⟩
      exact Bool.false_ne_true (hinfinite ▸ hle.isFinite hfinite)
  · exact Or.inr ⟨by rw [hnan, Binary64.nan_mul], hinfinite⟩

theorem grade_mayEarn {flavor : Flavor} {field : Field} (h : field.Sound flavor) (limits : Limits)
    (answer : Option String) : field.MayEarn (field.grade limits answer).earned := by
  unfold Field.grade
  dsimp only
  cases hbest : answer.bind (field.best? limits) with
  | none => exact Or.inl h.positive.zero_atMost
  | some b =>
      obtain ⟨text, -, hb⟩ := Option.bind_eq_some_iff.mp hbest
      exact (isMatch_of_best? hb).mayEarn h.positive h.weights

end Field

/-! ## All gaps -/

namespace Grade

variable {limits : Limits} {answers : GapAnswers} {fields : List Field}

theorem clozeOutcomes_most :
    (clozeOutcomes limits answers fields).map (·.most) = fields.map (·.points) := by
  refine List.ext_getElem (by simp [clozeOutcomes]) fun i hi _ => ?_
  simp [clozeOutcomes, Field.grade]

/-- Every gap earns at most its points, unless these are infinity. -/
theorem clozeOutcomes_atMost {flavor : Flavor} (h : ∀ field ∈ fields, field.Sound flavor) :
    ∀ outcome ∈ clozeOutcomes limits answers fields,
      AtMost outcome.earned outcome.most
        ∨ outcome.earned = .nan ∧ outcome.most.isFinite = false := by
  intro outcome houtcome
  obtain ⟨i, hi, rfl⟩ := List.mem_mapIdx.mp houtcome
  exact Field.grade_mayEarn (h _ (List.getElem_mem hi)) limits _

theorem clamp_nan : Binary64.clamp 0 1 .nan = .nan := by decide +kernel

theorem clamp_of_share {x : Binary64} (h : Share x) : Binary64.clamp 0 1 x = x :=
  AuthoredQuestion.clamp_of_isShare (Bool.and_eq_true_iff.mpr h.bounds)

theorem InRange.not_nan {grade : Grade} (h : grade.InRange) : grade.fraction ≠ .nan := by
  intro hnan
  have hle := h.fraction.2
  rw [hnan] at hle
  exact Bool.false_ne_true hle

/-- Where every gap earns at most its points, the grade is in range exactly if what they earn adds
up to a finite number. -/
private theorem ofCloze_inRange_iff_of_atMost (hne : fields ≠ [])
    (hmost : Positive (.sum (fields.map (·.points))))
    (hall : ∀ outcome ∈ clozeOutcomes limits answers fields,
      AtMost outcome.earned outcome.most) :
    (ofCloze limits fields answers).InRange ↔
      (Binary64.sum ((clozeOutcomes limits answers fields).map (·.earned))).isFinite = true := by
  have houtcomes : clozeOutcomes limits answers fields ≠ [] := by
    simpa [clozeOutcomes] using hne
  have hsum := AtMost.sum houtcomes hall
  rw [clozeOutcomes_most] at hsum
  have hfraction : (ofCloze limits fields answers).fraction =
      Binary64.clamp 0 1 (.sum ((clozeOutcomes limits answers fields).map (·.earned))
        / .sum (fields.map (·.points))) :=
    if_pos (Binary64.positive_iff.mpr hmost)
  constructor
  · intro hrange
    refine (Bool.eq_false_or_eq_true _).resolve_right fun hinfinite => ?_
    rw [hsum.div_eq_nan hinfinite, clamp_nan] at hfraction
    exact hrange.not_nan hfraction
  · intro hfinite
    have hshare := hsum.div_share hfinite hmost
    rw [clamp_of_share hshare] at hfraction
    exact ⟨hfraction ▸ hshare.bounds, fun outcome houtcome => (hall outcome houtcome).bounds⟩

theorem ofCloze_inRange_iff {flavor : Flavor} (hne : fields ≠ [])
    (h : ∀ field ∈ fields, field.Sound flavor) :
    ((ofCloze limits fields answers).InRange ↔
        (Binary64.sum ((ofCloze limits fields answers).outcomes.map (·.earned))).isFinite = true)
      ∧ ((Binary64.sum (fields.map (·.points))).isFinite = true →
        (ofCloze limits fields answers).InRange) := by
  have hmost : Positive (.sum (fields.map (·.points))) := by
    obtain ⟨field, rest, rfl⟩ := List.exists_cons_of_ne_nil hne
    have hpoints : ∀ points ∈ (field :: rest).map (·.points), points.Positive := by
      intro points hpoints
      obtain ⟨field', hfield, rfl⟩ := List.mem_map.mp hpoints
      exact (h field' hfield).positive
    exact Binary64.sum_positive hpoints
  change (_ ↔ (Binary64.sum ((clozeOutcomes limits answers fields).map (·.earned))).isFinite
    = true) ∧ _
  by_cases hall : ∀ outcome ∈ clozeOutcomes limits answers fields,
      AtMost outcome.earned outcome.most
  · have hiff := ofCloze_inRange_iff_of_atMost hne hmost hall
    refine ⟨hiff, fun hfinite => hiff.mpr ?_⟩
    have houtcomes : clozeOutcomes limits answers fields ≠ [] := by
      simpa [clozeOutcomes] using hne
    exact (AtMost.sum houtcomes hall).isFinite (clozeOutcomes_most ▸ hfinite)
  · -- some gap with infinitely many points earns no number
    obtain ⟨outcome, hall⟩ := Classical.not_forall.mp hall
    obtain ⟨houtcome, hnot⟩ := Classical.not_imp.mp hall
    obtain ⟨hnan, hinfinite⟩ := (clozeOutcomes_atMost h outcome houtcome).resolve_left hnot
    have hsum : Binary64.sum ((clozeOutcomes limits answers fields).map (·.earned)) = .nan :=
      Binary64.sum_eq_nan (List.mem_map.mpr ⟨outcome, houtcome, hnan⟩)
    refine ⟨⟨fun hrange => ?_, fun hfinite => ?_⟩, fun hfinite => ?_⟩
    · have hle := (hrange.outcomes outcome houtcome).2
      rw [hnan] at hle
      exact absurd hle Bool.false_ne_true
    · rw [hsum] at hfinite
      exact absurd hfinite Bool.false_ne_true
    · have hmosts : (clozeOutcomes limits answers fields).map (·.most) = fields.map (·.points) :=
        clozeOutcomes_most
      rw [← hmosts] at hfinite
      have := Binary64.isFinite_of_sum hfinite outcome.most (List.mem_map_of_mem houtcome)
      exact absurd (hinfinite ▸ this) Bool.false_ne_true

end Grade

/-! ## Built questions -/

namespace Question

/-- A cloze response to a question that was built has a grade in range exactly if what it earns
adds up to a finite number. So it is for every response where all the points do. -/
theorem grade_inRange_iff {authored : AuthoredQuestion} {question : Question}
    (hbuild : authored.build = .ok question) (hcloze : question.flavor = .cloze) (limits : Limits)
    (answers : GapAnswers) :
    ((question.grade limits (.cloze answers)).InRange ↔
        (Binary64.sum
          ((question.grade limits (.cloze answers)).outcomes.map (·.earned))).isFinite = true)
      ∧ (question.maxPoints.isFinite = true →
        (question.grade limits (.cloze answers)).InRange) := by
  obtain ⟨hfitted, hne⟩ := AuthoredQuestion.build_fitted hbuild
  have hmost : question.maxPoints = .sum (question.fields.map (·.points)) := by
    unfold maxPoints
    rw [hcloze]
  rw [hmost]
  exact Grade.ofCloze_inRange_iff (hne hcloze) fun field hfield => (hfitted field hfield).toSound

/-- The text of a field for `a`, with the digits of its points. -/
def textWorth (digits : List Char) : List Char :=
  '[' :: ("[a]]//\npoints=".toList ++ digits)

def patternWorth (digits : List Char) : String := String.ofList (textWorth digits)

/-- A question with one gap for `a`. -/
def gapWorth (digits : List Char) : AuthoredQuestion :=
  ⟨"q", "q", .cloze, "[[1]]", [⟨patternWorth digits, 1⟩]⟩

def fieldWorth (points : Binary64) : Field :=
  { Field.empty with points, subPatterns := [⟨["a"], 100, "", .default⟩] }

def gapWorthBuilt (points : Binary64) : Question :=
  ⟨"q", "q", .cloze, "[[1]]", [{ fieldWorth points with gap := some 1 }]⟩

theorem gapReferences_one : gapReferences "[[1]]" = [1] := by decide +kernel

theorem gapWorth_build {digits : List Char} {points : Binary64}
    (h : Field.parse .cloze (patternWorth digits) = .ok (fieldWorth points)) :
    (gapWorth digits).build = .ok (gapWorthBuilt points) := by
  have hne : (patternWorth digits).isEmpty = false := by
    rw [Bool.eq_false_iff, Ne, patternWorth, String.isEmpty_iff, String.ofList_eq_empty_iff]
    exact List.cons_ne_nil _ _
  have hchecked : ValidationReport.checkClozeAnswers [1] 0 [patternWorth digits] [] = [] := by
    simp only [ValidationReport.checkClozeAnswers, hne, ValidationReport.checkField, h]
    rfl
  have hopen : ValidationReport.openGaps [1] [patternWorth digits] = [] := by
    simp [ValidationReport.openGaps, ValidationReport.isAnswered, hne]
  have hvalid : (gapWorth digits).validate = [] := by
    change ValidationReport.ofQuestion .cloze "[[1]]" [patternWorth digits] = []
    unfold ValidationReport.ofQuestion
    simp only [gapReferences_one, hopen]
    exact hchecked
  unfold AuthoredQuestion.build
  simp only [hvalid]
  simp only [gapWorth, AuthoredQuestion.buildFields, AuthoredQuestion.buildField, h, hne]
  rfl

theorem grade_inRange_half_point :
    (gapWorth ['0', '.', '5']).build = .ok (gapWorthBuilt (.ofDecimal false 5 (-1)))
      ∧ (gapWorthBuilt (.ofDecimal false 5 (-1))).flavor = .cloze
      ∧ ((gapWorthBuilt (.ofDecimal false 5 (-1))).grade .default (.cloze [(1, "a")])).InRange := by
  have hbuild : (gapWorth ['0', '.', '5']).build = .ok (gapWorthBuilt (.ofDecimal false 5 (-1))) :=
    gapWorth_build (Field.parse_ofList (by decide +kernel))
  exact ⟨hbuild, rfl, (grade_inRange_iff hbuild rfl _ _).2 (by decide +kernel)⟩

/-- The digits of a number beyond the format. -/
def beyondFormat : List Char := '1' :: List.replicate 309 '0'

/-- The right answer to a question with infinitely many points. -/
theorem right_answer_without_fraction :
    (gapWorth beyondFormat).build = .ok (gapWorthBuilt (.infinity false))
      ∧ ((gapWorthBuilt (.infinity false)).grade .default (.cloze [(1, "a")])).fraction = .nan
      ∧ ¬ ((gapWorthBuilt (.infinity false)).grade .default (.cloze [(1, "a")])).InRange := by
  have hnan : ((gapWorthBuilt (.infinity false)).grade .default (.cloze [(1, "a")])).fraction
      = .nan := by decide +kernel
  exact ⟨gapWorth_build (Field.parse_ofList (by decide +kernel)), hnan,
    fun hrange => hrange.not_nan hnan⟩

end Question

end Gapfill
