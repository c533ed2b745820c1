import Gapfill.Proofs.GradeClass
import Gapfill.Proofs.SameResponse

/-!
# Nothing is earned for nothing

A pattern such as `a*` matches the empty text, and what it would be worth depends
on points that may be anything. What keeps an empty answer from earning is that it
is not admitted to any pattern (`evaluate_ofStored_of_not_admitted`). So no
sub-pattern is the best one, every field earns the positive zero, and the
quotients, sums and maxima of zeros stay zero, whatever the points are.

Both shapes of a response are graded like this (`grade_of_unanswered`), and a
response that is not gradable has nothing that a field could look at.
-/

namespace Gapfill

open Binary64 (Positive)

/-! ## Zero -/

namespace Binary64

theorem Positive.zero_div {x : Binary64} (h : Positive x) : 0 / x = 0 := by
  obtain ⟨rank, hrank, rfl, hpos⟩ := h
  have hzero : (0 : Nat) ≠ infinityRank := by decide
  rw [zero_eq, div_eq, div, if_neg hzero]
  by_cases hinf : rank = infinityRank
  · rw [if_pos hinf]
    rfl
  · rw [if_neg hinf, if_neg (Nat.ne_of_gt hpos), nearest_eq, units_zero, Nat.zero_mul]
    exact signed_congr (nearestRank_nothing (units_pos hpos))

theorem foldl_max_zero : ∀ {xs : List Binary64}, (∀ x ∈ xs, x = 0) → xs.foldl max 0 = 0
  | [], _ => rfl
  | x :: xs, h => by
      obtain ⟨rfl, hxs⟩ := List.forall_mem_cons.mp h
      have hmax : max 0 0 = 0 := by decide +kernel
      rw [List.foldl_cons, hmax, foldl_max_zero hxs]

end Binary64

theorem Classification.ofPoints_zero (most : Binary64) : ofPoints 0 most = wrong :=
  if_pos (by decide +kernel)

theorem Classification.ofFraction_zero : ofFraction 0 = wrong := if_pos (by decide +kernel)

/-! ## Answers that are not admitted -/

/-- What is not admitted is worth nothing, in whatever form the sub-pattern is compiled. -/
theorem Compiled.evaluate_ofStored_of_not_admitted {limits : Limits} {sub : SubPattern}
    {answer : List Char} (separator : String) (h : admitAnswer? sub.options limits answer = none) :
    (ofStored sub separator limits).evaluate limits answer = .none := by
  unfold ofStored ofSubPattern
  dsimp only
  split
  · rename_i compiled hcompiled
    split at hcompiled
    · cases hms : compileEach sub.options limits _ with
      | error e =>
          rw [hms] at hcompiled
          simp [Except.map] at hcompiled
      | ok ms =>
          rw [hms] at hcompiled
          obtain rfl := Except.ok.inj hcompiled
          simp only [evaluate, h]
    · cases hm : Matcher.compile _ sub.options limits with
      | error e =>
          rw [hm] at hcompiled
          simp [Except.map] at hcompiled
      | ok m =>
          rw [hm] at hcompiled
          obtain rfl := Except.ok.inj hcompiled
          simp only [evaluate, h]
  · rfl

namespace Field

/-- Grading has no use for the answer: it is too long, or nothing remains of it under the options of
any sub-pattern. -/
def PassesOver (limits : Limits) (field : Field) (answer : String) : Prop :=
  limits.answerLength < answer.toList.length
    ∨ ∀ sub ∈ field.subPatterns, normalize sub.options answer.toList = []

instance (limits : Limits) (field : Field) (answer : String) :
    Decidable (field.PassesOver limits answer) := inferInstanceAs (Decidable (_ ∨ _))

variable {limits : Limits} {field : Field} {answer : String}

theorem passesOver_of_isEmpty (h : answer.isEmpty = true) : field.PassesOver limits answer := by
  right
  intro sub _
  rw [String.isEmpty_iff.mp h]
  cases htrim : sub.options.trimEnds <;> simp [normalize, htrim, trim, trimStart, trimEnd]

theorem PassesOver.not_admitted (h : field.PassesOver limits answer) :
    ∀ sub ∈ field.subPatterns, admitAnswer? sub.options limits answer.toList = none := by
  intro sub hsub
  unfold admitAnswer?
  split
  · rfl
  · rename_i hshort
    rcases h with hlong | hempty
    · exact absurd hlong hshort
    · rw [hempty sub hsub]
      rfl

theorem PassesOver.best?_eq_none (h : field.PassesOver limits answer) :
    field.best? limits answer = none := by
  refine Field.best?_eq_none fun index => ?_
  cases hsub : field.subPatterns[index]? with
  | none => rw [evaluate_eq_none hsub, MatchResult.matched_none]
  | some sub =>
      have hadmit := h.not_admitted sub (List.mem_of_getElem? hsub)
      rw [evaluate_eq hsub, Compiled.evaluate_ofStored_of_not_admitted field.separator hadmit,
        MatchResult.matched_none]

end Field

/-! ## Fields that earn nothing -/

/-- The field earned nothing, and no sub-pattern is named for it. -/
structure Outcome.Nothing (outcome : Outcome) : Prop where
  earned : outcome.earned = 0
  classification : outcome.classification = .wrong
  subPattern : outcome.subPattern = none

theorem Outcome.nothing_of_zero (gap : Option Nat) (most : Binary64) :
    Outcome.Nothing ⟨gap, 0, most, none, .ofPoints 0 most⟩ := by
  refine ⟨rfl, ?_, rfl⟩
  dsimp only
  exact Classification.ofPoints_zero most

theorem Field.grade_nothing {limits : Limits} {field : Field} {answer : Option String}
    (h : ∀ text ∈ answer, field.PassesOver limits text) : (field.grade limits answer).Nothing := by
  have hbest : answer.bind (field.best? limits) = none := by
    cases answer with
    | none => rfl
    | some text => exact (h text rfl).best?_eq_none
  unfold Field.grade
  rw [hbest]
  exact Outcome.nothing_of_zero field.gap field.points

theorem Field.gradeAlternative_nothing {limits : Limits} {field : Field} {answer : String}
    (h : field.PassesOver limits answer) : (field.gradeAlternative limits answer).Nothing := by
  unfold Field.gradeAlternative
  rw [h.best?_eq_none]
  exact Outcome.nothing_of_zero field.gap field.fraction

/-! ## Whole grades -/

/-- The grade is that of nothing, for every one of so many fields. -/
structure Grade.Nothing (grade : Grade) (fields : Nat) : Prop where
  fraction : grade.fraction = 0
  classification : grade.classification = .wrong
  length : grade.outcomes.length = fields
  outcomes : ∀ outcome ∈ grade.outcomes, outcome.Nothing

namespace Grade

variable {limits : Limits} {fields : List Field}

theorem ofCloze_nothing {answers : GapAnswers}
    (h : ∀ outcome ∈ clozeOutcomes limits answers fields, outcome.Nothing) :
    (ofCloze limits fields answers).Nothing fields.length := by
  have hfraction : (ofCloze limits fields answers).fraction = 0 := by
    unfold ofCloze
    dsimp only
    split
    · rename_i hmost
      -- without fields there are no points, and nothing is divided by them
      have hne : fields ≠ [] := by
        rintro rfl
        exact absurd hmost (by decide +kernel)
      have hsum : Binary64.sum ((clozeOutcomes limits answers fields).map (·.earned)) = 0 := by
        refine Binary64.sum_eq_zero (by simpa [clozeOutcomes] using hne) ?_
        intro x hx
        obtain ⟨outcome, houtcome, rfl⟩ := List.mem_map.mp hx
        exact (h outcome houtcome).earned
      rw [hsum, (Binary64.positive_iff.mp hmost).zero_div]
      exact clamp_of_share Binary64.share_zero
    · rfl
  refine ⟨hfraction, ?_, by simp [ofCloze, clozeOutcomes], h⟩
  change Classification.ofFraction (ofCloze limits fields answers).fraction = .wrong
  rw [hfraction, Classification.ofFraction_zero]

theorem ofSingle_nothing {answer : String}
    (h : ∀ field ∈ fields, (field.gradeAlternative limits answer).Nothing) :
    (ofSingle limits fields answer).Nothing fields.length := by
  have hfraction : (ofSingle limits fields answer).fraction = 0 := by
    unfold ofSingle
    dsimp only
    rw [Binary64.foldl_max_zero, clamp_of_share Binary64.share_zero]
    intro x hx
    obtain ⟨outcome, houtcome, rfl⟩ := List.mem_map.mp hx
    obtain ⟨field, hfield, rfl⟩ := List.mem_map.mp houtcome
    exact (h field hfield).earned
  refine ⟨hfraction, ?_, by simp [ofSingle], ?_⟩
  · change Classification.ofFraction (ofSingle limits fields answer).fraction = .wrong
    rw [hfraction, Classification.ofFraction_zero]
  · intro outcome houtcome
    obtain ⟨field, hfield, rfl⟩ := List.mem_map.mp houtcome
    exact h field hfield

end Grade

namespace Question

/-- Whatever text the response has for a field, the field passes over it. -/
def Unanswered (limits : Limits) (question : Question) (response : Response) : Prop :=
  ∀ (index : Nat) (field : Field), question.fields[index]? = some field →
    ∀ text ∈ response.answerFor (some (field.gapAt index)), field.PassesOver limits text

theorem unanswered_of_not_gradable {question : Question} {response : Response} (limits : Limits)
    (h : question.isGradable response = false) : question.Unanswered limits response := by
  intro index field hfield text htext
  refine Field.passesOver_of_isEmpty ?_
  cases response with
  | single answer =>
      obtain rfl := Option.some.inj htext
      simpa [isGradable] using h
  | cloze answers =>
      obtain ⟨hlt, rfl⟩ := List.getElem?_eq_some_iff.mp hfield
      have hgap := List.any_eq_false.mp h _ (gapAt_mem_gaps question hlt)
      have htext : answers.get? (question.fields[index].gapAt index) = some text := htext
      simpa [isFilled, htext] using hgap

/-- A response that cannot be graded, or whose texts are all passed over, gets the grade of nothing:
whatever is stored in the question, and whatever the limits are. -/
theorem grade_of_unanswered (limits : Limits) {question : Question} {response : Response}
    (h : question.isGradable response = false ∨ question.Unanswered limits response) :
    (question.grade limits response).Nothing question.fields.length := by
  have hpassed : question.Unanswered limits response := by
    rcases h with hungradable | hpassed
    · exact unanswered_of_not_gradable limits hungradable
    · exact hpassed
  cases response with
  | cloze answers =>
      refine Grade.ofCloze_nothing ?_
      intro outcome houtcome
      obtain ⟨index, hlt, rfl⟩ := List.mem_mapIdx.mp houtcome
      have hfield := hpassed index _ (List.getElem?_eq_getElem hlt)
      obtain ⟨hearned, hclass, hsub⟩ := Field.grade_nothing hfield
      exact ⟨hearned, hclass, hsub⟩
  | single answer =>
      refine Grade.ofSingle_nothing ?_
      intro field hfield
      obtain ⟨index, hindex⟩ := List.mem_iff_getElem?.mp hfield
      exact Field.gradeAlternative_nothing (hpassed index field hindex answer rfl)

/-- Two gaps for patterns that match the empty text, the second of them for infinitely many
points. -/
def emptyMatches : Question :=
  ⟨"q", "q", .cloze, "[[1]] [[2]]",
    [{ Field.empty with gap := some 1, subPatterns := [⟨["a*"], 100, "", .default⟩] },
      { Field.empty with subPatterns := [⟨[".*"], 100, "", .default⟩], points := .infinity false }]⟩

theorem emptyMatches_nothing :
    (emptyMatches.isGradable (.single "") = false
        ∧ (emptyMatches.grade .default (.single "")).Nothing 2)
      ∧ emptyMatches.isGradable (.cloze [(2, " \r\n")]) = true
        ∧ (emptyMatches.grade .default (.cloze [(2, " \r\n")])).Nothing 2 := by
  have hblank : emptyMatches.Unanswered .default (.cloze [(2, " \r\n")]) := by
    intro index field hfield text htext
    match index with
    | 0 =>
        obtain rfl := Option.some.inj hfield
        have hmissing : (Response.cloze [(2, " \r\n")]).answerFor (some 1) = none := rfl
        exact absurd (hmissing.symm.trans htext) (Option.some_ne_none text).symm
    | 1 =>
        obtain rfl := Option.some.inj hfield
        obtain rfl := Option.some.inj htext
        decide +kernel
  exact ⟨⟨by decide, grade_of_unanswered .default (Or.inl (by decide))⟩, by decide,
    grade_of_unanswered .default (Or.inr hblank)⟩

end Question

end Gapfill
