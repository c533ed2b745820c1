import Gapfill.Question.Basic

/-!
# Only the texts for a question's own gaps matter

Two responses that say the same for every gap of a question get the same grade,
the same summary and the same answers to all questions that are asked about them
(`sameResponse_alike`). Each of these operations looks texts up by itself, the
grader field by field and the others gap by gap. All look under the same numbers,
because the gaps of a question are the numbers of its fields.
-/

namespace Gapfill

namespace Question

/-- Both give the same text for every gap of the question, or the same whole answer. -/
inductive SaysTheSame (question : Question) : Response → Response → Prop
  | cloze {a b : GapAnswers} : (∀ gap ∈ question.gaps, a.get? gap = b.get? gap) →
      SaysTheSame question (.cloze a) (.cloze b)
  | single {answer : String} : SaysTheSame question (.single answer) (.single answer)

theorem sameResponse_iff {question : Question} {a b : Response} :
    question.sameResponse a b = true ↔ question.SaysTheSame a b := by
  constructor
  · intro h
    cases a with
    | cloze a =>
        cases b with
        | cloze b => exact .cloze (by simpa [sameResponse] using h)
        | single b => simp [sameResponse] at h
    | single a =>
        cases b with
        | cloze b => simp [sameResponse] at h
        | single b =>
            obtain rfl : a = b := by simpa [sameResponse] using h
            exact .single
  · rintro (h | _)
    · simpa [sameResponse] using h
    · simp [sameResponse]

theorem SaysTheSame.refl {question : Question} : ∀ a : Response, question.SaysTheSame a a
  | .cloze _ => .cloze fun _ _ => rfl
  | .single _ => .single

theorem SaysTheSame.symm {question : Question} {a b : Response} (h : question.SaysTheSame a b) :
    question.SaysTheSame b a := by
  cases h with
  | cloze h => exact .cloze fun gap hgap => (h gap hgap).symm
  | single => exact .single

theorem SaysTheSame.trans {question : Question} {a b c : Response}
    (h : question.SaysTheSame a b) (h' : question.SaysTheSame b c) : question.SaysTheSame a c := by
  cases h with
  | cloze h =>
      cases h' with
      | cloze h' => exact .cloze fun gap hgap => (h gap hgap).trans (h' gap hgap)
  | single => exact h'

theorem sameResponse_equivalence (question : Question) :
    Equivalence fun a b => question.sameResponse a b = true where
  refl a := sameResponse_iff.mpr (.refl a)
  symm h := sameResponse_iff.mpr (sameResponse_iff.mp h).symm
  trans h h' := sameResponse_iff.mpr ((sameResponse_iff.mp h).trans (sameResponse_iff.mp h'))

/-! ## What can be seen of a response -/

/-- The number of a field is a gap of the question. -/
theorem gapAt_mem_gaps (question : Question) {index : Nat} (h : index < question.fields.length) :
    question.fields[index].gapAt index ∈ question.gaps :=
  List.mem_mapIdx.mpr ⟨index, h, rfl⟩

theorem clozeOutcomes_congr {question : Question} {a b : GapAnswers}
    (h : ∀ gap ∈ question.gaps, a.get? gap = b.get? gap) (limits : Limits) :
    Grade.clozeOutcomes limits a question.fields = Grade.clozeOutcomes limits b question.fields :=
  List.mapIdx_eq_mapIdx_iff.mpr fun index hindex => by
    dsimp only
    rw [h _ (question.gapAt_mem_gaps hindex)]

theorem map_isFilled_congr {question : Question} {a b : GapAnswers}
    (h : ∀ gap ∈ question.gaps, a.get? gap = b.get? gap) :
    question.gaps.map (isFilled a) = question.gaps.map (isFilled b) :=
  List.map_congr_left fun gap hgap => by rw [isFilled, isFilled, h gap hgap]

theorem isComplete_cloze (question : Question) (answers : GapAnswers) :
    question.isComplete (.cloze answers) =
      (question.gaps.map (isFilled answers)).all fun filled => filled := by
  rw [List.all_map]
  rfl

theorem isGradable_cloze (question : Question) (answers : GapAnswers) :
    question.isGradable (.cloze answers) =
      (question.gaps.map (isFilled answers)).any fun filled => filled := by
  rw [List.any_map]
  rfl

/-- Nothing that a question says about a response tells the two apart. -/
structure Alike (question : Question) (a b : Response) : Prop where
  grade : ∀ limits, question.grade limits a = question.grade limits b
  summarize : question.summarize a = question.summarize b
  isComplete : question.isComplete a = question.isComplete b
  isGradable : question.isGradable a = question.isGradable b
  complaint : question.complaint? a = question.complaint? b

theorem SaysTheSame.alike {question : Question} {a b : Response} (h : question.SaysTheSame a b) :
    question.Alike a b := by
  cases h with
  | single => exact ⟨fun _ => rfl, rfl, rfl, rfl, rfl⟩
  | @cloze a b h =>
      have hfilled := map_isFilled_congr h
      have hgradable : question.isGradable (.cloze a) = question.isGradable (.cloze b) := by
        rw [isGradable_cloze, isGradable_cloze, hfilled]
      have hlines : question.gaps.map (summaryLine a) = question.gaps.map (summaryLine b) :=
        List.map_congr_left fun gap hgap => by rw [summaryLine, summaryLine, h gap hgap]
      refine ⟨fun limits => ?_, ?_, ?_, hgradable, ?_⟩
      · simp only [Question.grade, Grade.ofResponse, Grade.ofCloze, clozeOutcomes_congr h limits]
      · simp only [Question.summarize, hlines]
      · rw [isComplete_cloze, isComplete_cloze, hfilled]
      · simp only [complaint?, hgradable]

/-- The texts for gaps of the question, without those for other numbers. -/
def ownAnswers (question : Question) (answers : GapAnswers) : GapAnswers :=
  answers.filter fun entry => question.gaps.contains entry.1

theorem get?_ownAnswers {question : Question} {gap : Nat} (hgap : gap ∈ question.gaps) :
    ∀ answers : GapAnswers, GapAnswers.get? (question.ownAnswers answers) gap = answers.get? gap
  | [] => rfl
  | (number, text) :: rest => by
      have ih := get?_ownAnswers hgap rest
      unfold ownAnswers GapAnswers.get? at ih ⊢
      rw [List.filter_cons, List.lookup_cons, ← ih]
      by_cases hnumber : gap = number
      · subst hnumber
        rw [if_pos (by simpa using hgap), List.lookup_cons]
      · have hother : (gap == number) = false := beq_false_of_ne hnumber
        split
        · rw [List.lookup_cons, hother]
        · rw [hother]

/-- To say the same for the gaps of a question is an equivalence, and whatever the question says
about a response respects it. So texts for other numbers never matter. -/
theorem sameResponse_alike (question : Question) :
    (Equivalence fun a b => question.sameResponse a b = true)
      ∧ (∀ a b, question.sameResponse a b = true → question.Alike a b)
      ∧ ∀ answers,
        question.sameResponse (.cloze answers) (.cloze (question.ownAnswers answers)) = true
        ∧ question.Alike (.cloze answers) (.cloze (question.ownAnswers answers)) := by
  have hown : ∀ answers,
      question.SaysTheSame (.cloze answers) (.cloze (question.ownAnswers answers)) :=
    fun answers => .cloze fun gap hgap => (get?_ownAnswers hgap answers).symm
  exact ⟨question.sameResponse_equivalence, fun a b h => (sameResponse_iff.mp h).alike,
    fun answers => ⟨sameResponse_iff.mpr (hown answers), (hown answers).alike⟩⟩

/-- Two gaps, of which the first has a number of its own and the second the one counted. -/
def sevenAndTwo : Question :=
  ⟨"q", "q", .cloze, "[[7]] [[2]]",
    [{ Field.empty with gap := some 7, subPatterns := [⟨["a"], 100, "", .default⟩] },
      { Field.empty with subPatterns := [⟨["b"], 100, "", .default⟩] }]⟩

theorem sevenAndTwo_alike :
    let a := Response.cloze [(1, "x"), (7, "a")]
    let b := Response.cloze [(7, "a"), (9, "y")]
    sevenAndTwo.sameResponse a b = true ∧ sevenAndTwo.Alike a b := by
  intro a b
  have hsame : sevenAndTwo.sameResponse a b = true := by decide
  exact ⟨hsame, (sameResponse_alike sevenAndTwo).2.1 a b hsame⟩

end Question

end Gapfill
