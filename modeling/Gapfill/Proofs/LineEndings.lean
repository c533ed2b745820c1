import Gapfill.Proofs.Matches
import Gapfill.Question.Basic

/-!
# Carriage returns count for the length of an answer only

Before an answer is matched its carriage returns are dropped, and everything
that looks at it later, up to the separator of lines, looks at what is left. Only
the limit on the length comes first and counts them. So an answer that is written
with carriage returns is worth what it is worth without them, unless it is only
with them that it goes beyond the limit; then it is worth nothing
(`lineEndings_alike`).
-/

namespace Gapfill

/-- The text without its carriage returns. -/
def withoutReturns (text : List Char) : List Char := text.filter (· != '\r')

/-- The answer is beyond the limit, but not without its carriage returns. -/
def LongByReturns (limits : Limits) (answer : List Char) : Prop :=
  (withoutReturns answer).length ≤ limits.answerLength ∧ limits.answerLength < answer.length

instance (limits : Limits) (answer : List Char) : Decidable (LongByReturns limits answer) :=
  inferInstanceAs (Decidable (_ ∧ _))

/-! ## One answer -/

theorem normalize_withoutReturns (options : Options) (answer : List Char) :
    normalize options (withoutReturns answer) = normalize options answer := by
  unfold normalize withoutReturns
  rw [List.filter_filter]
  simp only [Bool.and_self]

variable {limits : Limits} {answer : List Char}

/-- An answer that is beyond the limit by its carriage returns is not admitted. -/
theorem admitAnswer?_of_longByReturns (options : Options) (h : LongByReturns limits answer) :
    admitAnswer? options limits answer = none := if_pos h.2

theorem admitAnswer?_withoutReturns (options : Options) (h : ¬ LongByReturns limits answer) :
    admitAnswer? options limits (withoutReturns answer) = admitAnswer? options limits answer := by
  have hshorter : (withoutReturns answer).length ≤ answer.length := List.length_filter_le _ _
  unfold admitAnswer?
  by_cases hlong : limits.answerLength < answer.length
  · have hstill : limits.answerLength < (withoutReturns answer).length :=
      Nat.lt_of_not_le fun hle => h ⟨hle, hlong⟩
    rw [if_pos hlong, if_pos hstill]
  · rw [if_neg hlong, if_neg (by omega), normalize_withoutReturns]

namespace Compiled

/-- A pattern looks at an answer only as it is admitted. -/
theorem evaluate_congr {answer' : List Char}
    (h : ∀ options, admitAnswer? options limits answer' = admitAnswer? options limits answer)
    (compiled : Compiled) : compiled.evaluate limits answer' = compiled.evaluate limits answer := by
  cases compiled <;> simp only [evaluate, h]

theorem evaluate_of_not_admitted (h : ∀ options, admitAnswer? options limits answer = none)
    (compiled : Compiled) : compiled.evaluate limits answer = .none := by
  cases compiled <;> simp only [evaluate, h]

end Compiled

/-! ## Whole responses -/

/-- The text without its carriage returns. -/
def textWithoutReturns (text : String) : String := .ofList (withoutReturns text.toList)

namespace Response

/-- The response with every text as it is without carriage returns. -/
def withoutReturns : Response → Response
  | cloze answers => cloze (answers.map fun entry => (entry.1, textWithoutReturns entry.2))
  | single answer => single (textWithoutReturns answer)

/-- The texts that were given. -/
def texts : Response → List String
  | cloze answers => answers.map (·.2)
  | single answer => [answer]

end Response

theorem GapAnswers.get?_map (f : String → String) (gap : Nat) :
    ∀ answers : GapAnswers,
      GapAnswers.get? (answers.map fun entry => (entry.1, f entry.2)) gap =
        (answers.get? gap).map f
  | [] => rfl
  | (g, text) :: rest => by
      have ih := get?_map f gap rest
      unfold get? at ih ⊢
      rw [List.map_cons, List.lookup_cons, List.lookup_cons]
      cases gap == g
      · exact ih
      · rfl

theorem GapAnswers.mem_of_get? {answers : GapAnswers} {gap : Nat} {text : String}
    (h : answers.get? gap = some text) : text ∈ answers.map (·.2) := by
  obtain ⟨before, after, rfl, -⟩ := List.lookup_eq_some_iff.mp h
  simp

namespace Field

theorem best?_congr {limits : Limits} {answer answer' : String}
    (h : ∀ compiled : Compiled,
      compiled.evaluate limits answer'.toList = compiled.evaluate limits answer.toList)
    (field : Field) : field.best? limits answer' = field.best? limits answer := by
  rw [best?_eq_bestOf, best?_eq_bestOf]
  simp only [matchesFrom, matchWith?, h]

variable {limits : Limits}

theorem best?_withoutReturns {text : String} (h : ¬ LongByReturns limits text.toList)
    (field : Field) : field.best? limits (textWithoutReturns text) = field.best? limits text := by
  refine best?_congr (Compiled.evaluate_congr fun options => ?_) field
  rw [textWithoutReturns, String.toList_ofList]
  exact admitAnswer?_withoutReturns options h

theorem grade_withoutReturns {answer : Option String}
    (h : ∀ text ∈ answer, ¬ LongByReturns limits text.toList) (field : Field) :
    field.grade limits (answer.map textWithoutReturns) = field.grade limits answer := by
  cases answer with
  | none => rfl
  | some text =>
      unfold grade
      rw [Option.map_some, Option.bind_some, Option.bind_some, best?_withoutReturns (h text rfl)]

end Field

/-- Carriage returns change what an answer is worth only by its length: against every pattern the
answer is worth what it is worth without them, or nothing if it is beyond the limit by them. So a
response none of whose texts is beyond the limit by carriage returns is graded as it is without
them. -/
theorem lineEndings_alike (limits : Limits) :
    (∀ (compiled : Compiled) (answer : List Char),
      compiled.evaluate limits answer =
        if LongByReturns limits answer then .none
        else compiled.evaluate limits (withoutReturns answer))
      ∧ ∀ (question : Question) (response : Response),
        (∀ text ∈ response.texts, ¬ LongByReturns limits text.toList) →
          question.grade limits response.withoutReturns = question.grade limits response := by
  refine ⟨fun compiled answer => ?_, fun question response h => ?_⟩
  · split
    · rename_i hlong
      exact compiled.evaluate_of_not_admitted fun options =>
        admitAnswer?_of_longByReturns options hlong
    · rename_i hlong
      exact (compiled.evaluate_congr fun options =>
        admitAnswer?_withoutReturns options hlong).symm
  · cases response with
    | cloze answers =>
        have houtcomes : Grade.clozeOutcomes limits
            (answers.map fun entry => (entry.1, textWithoutReturns entry.2)) question.fields =
              Grade.clozeOutcomes limits answers question.fields := by
          refine List.mapIdx_eq_mapIdx_iff.mpr fun index _ => ?_
          dsimp only
          rw [GapAnswers.get?_map, Field.grade_withoutReturns fun text htext =>
            h text (GapAnswers.mem_of_get? htext)]
        unfold Question.grade Response.withoutReturns Grade.ofResponse Grade.ofCloze
        dsimp only
        rw [houtcomes]
    | single answer =>
        have hbest := Field.best?_withoutReturns (h answer List.mem_cons_self)
        unfold Question.grade Response.withoutReturns Grade.ofResponse Grade.ofSingle
        simp only [Field.gradeAlternative, hbest]

/-- A gap for the lines `a` and `b` in any order. -/
def twoLineGap : Question :=
  ⟨"q", "q", .cloze, "[[1]]",
    [{ Field.empty with
      gap := some 1
      subPatterns := [⟨["a", "b"], 100, "O", { Options.default with anyOrder := true }⟩] }]⟩

/-- Two lines with carriage returns, as many characters as are allowed. -/
theorem lineEndings_alike_twoLines :
    let limits : Limits := { Limits.default with answerLength := 5 }
    let response : Response := .cloze [(1, "b\r\na\r")]
    (∀ text ∈ response.texts, ¬ LongByReturns limits text.toList)
      ∧ response.withoutReturns = .cloze [(1, "b\na")]
      ∧ (twoLineGap.grade limits response).classification = .right
      ∧ twoLineGap.grade limits (.cloze [(1, "b\na")]) = twoLineGap.grade limits response := by
  intro limits response
  have hshort : ∀ text ∈ response.texts, ¬ LongByReturns limits text.toList := by decide +kernel
  have hgrade := (lineEndings_alike limits).2 twoLineGap response hshort
  exact ⟨hshort, by decide +kernel, by decide +kernel, hgrade⟩

/-- Of two answers that differ in a carriage return, one is beyond the limit. -/
theorem return_beyond_limit :
    let limits : Limits := { Limits.default with answerLength := 2 }
    let compiled := Compiled.ofStored ⟨["ab"], 100, "", .default⟩ "\n" limits
    withoutReturns "ab\r".toList = "ab".toList
      ∧ compiled.evaluate limits "ab\r".toList = ⟨0, none⟩
      ∧ compiled.evaluate limits "ab".toList = ⟨1, none⟩ :=
  ⟨by decide, by decide +kernel, by decide +kernel⟩

end Gapfill
