import Mathlib.Data.List.Forall2
import Mathlib.Data.List.Sort
import Gapfill.Proofs.Grading
import Gapfill.Proofs.ReportContents
import Gapfill.Proofs.SameResponse

/-!
# The gaps of a built question

Three numberings meet in a cloze question: the answers have indices, the fields
come one after the other without the empty answers, and the text marks gaps in
any order. The numbers of the gaps are those of the answers that are not empty
(`numbered`), which increase, and a field is built for each of them
(`buildFields_cloze`). A clean report says that these are the gaps that the text
marks, each once. So the gaps of the question are the marked ones in order, and
for each there is one field, that of its own answer (`build_fitsText`).
-/

namespace Gapfill

namespace AuthoredQuestion

/-! ## Numbers of answers -/

/-- The answers that are not empty, each with the number of its gap. The first answer of all has
the index `index`. -/
def numbered : Nat → List AuthoredAnswer → List (Nat × String)
  | _, [] => []
  | index, answer :: rest =>
    if answer.pattern.isEmpty then numbered (index + 1) rest
    else (index + 1, answer.pattern) :: numbered (index + 1) rest

theorem mem_numbered {gap : Nat} {pattern : String} :
    ∀ {index : Nat} {answers : List AuthoredAnswer},
    (gap, pattern) ∈ numbered index answers ↔
      ∃ i answer, answers[i]? = some answer ∧ answer.pattern = pattern
        ∧ pattern.isEmpty = false ∧ gap = index + i + 1
  | _, [] => by simp [numbered]
  | index, answer :: rest => by
      have ih : (gap, pattern) ∈ numbered (index + 1) rest ↔
          ∃ i answer, rest[i]? = some answer ∧ answer.pattern = pattern
            ∧ pattern.isEmpty = false ∧ gap = index + 1 + i + 1 := mem_numbered
      rw [numbered]
      constructor
      · intro h
        have hcases : (gap, pattern) = (index + 1, answer.pattern) ∧ answer.pattern.isEmpty = false
            ∨ (gap, pattern) ∈ numbered (index + 1) rest := by
          split at h
          · exact Or.inr h
          · rename_i hne
            rcases List.mem_cons.mp h with heq | hrest
            · exact Or.inl ⟨heq, by simpa using hne⟩
            · exact Or.inr hrest
        rcases hcases with ⟨heq, hne⟩ | hrest
        · obtain ⟨rfl, rfl⟩ := Prod.mk.inj heq
          exact ⟨0, answer, rfl, rfl, hne, rfl⟩
        · obtain ⟨i, other, hother, hpattern, hne, rfl⟩ := ih.mp hrest
          exact ⟨i + 1, other, hother, hpattern, hne, by omega⟩
      · rintro ⟨i, other, hother, rfl, hne, rfl⟩
        cases i with
        | zero =>
            obtain rfl := Option.some.inj hother
            rw [if_neg (by simp [hne])]
            exact List.mem_cons_self
        | succ i =>
            have hrest := ih.mpr ⟨i, other, hother, rfl, hne, by omega⟩
            split
            · exact hrest
            · exact List.mem_cons_of_mem _ hrest

theorem numbered_increasing : ∀ (index : Nat) (answers : List AuthoredAnswer),
    ((numbered index answers).map (·.1)).Pairwise (· < ·)
  | _, [] => List.Pairwise.nil
  | index, answer :: rest => by
      have ih := numbered_increasing (index + 1) rest
      rw [numbered]
      split
      · exact ih
      · refine List.pairwise_cons.mpr ⟨?_, ih⟩
        intro gap hgap
        obtain ⟨⟨number, pattern⟩, hmem, rfl⟩ := List.mem_map.mp hgap
        obtain ⟨i, -, -, -, -, hnumber⟩ := mem_numbered.mp hmem
        dsimp only
        omega

/-- The numbers are those of the gaps that have an answer. -/
theorem mem_numbered_iff_hasAnswer {gap : Nat} {answers : List AuthoredAnswer} :
    gap ∈ (numbered 0 answers).map (·.1) ↔
      ValidationReport.HasAnswer (answers.map (·.pattern)) gap := by
  unfold ValidationReport.HasAnswer
  simp only [List.mem_map, Prod.exists, exists_and_right, exists_eq_right, mem_numbered,
    List.getElem?_map, Option.map_eq_some_iff]
  constructor
  · rintro ⟨pattern, i, answer, hanswer, hpattern, hne, rfl⟩
    exact ⟨i, pattern, ⟨answer, hanswer, hpattern⟩, hne, by omega⟩
  · rintro ⟨i, pattern, ⟨answer, hanswer, hpattern⟩, hne, rfl⟩
    exact ⟨pattern, i, answer, hanswer, hpattern, hne, by omega⟩

/-- An entry is the only one with its number. -/
theorem filter_numbered {gap : Nat} {pattern : String} : ∀ {entries : List (Nat × String)},
    (entries.map (·.1)).Pairwise (· < ·) → (gap, pattern) ∈ entries →
      entries.filter (fun entry => entry.1 == gap) = [(gap, pattern)]
  | [], _, hmem => absurd hmem List.not_mem_nil
  | (number, text) :: rest, h, hmem => by
      obtain ⟨hfirst, hrest⟩ := List.pairwise_cons.mp h
      rcases List.mem_cons.mp hmem with heq | hmem
      · obtain ⟨rfl, rfl⟩ := Prod.mk.inj heq
        rw [List.filter_cons_of_pos (by simp)]
        congr 1
        refine List.filter_eq_nil_iff.mpr fun entry hentry => ?_
        have hlt := hfirst entry.1 (List.mem_map_of_mem hentry)
        simpa using Nat.ne_of_gt hlt
      · have hlt : number < gap := hfirst gap (List.mem_map_of_mem hmem)
        rw [List.filter_cons_of_neg (by simpa using Nat.ne_of_lt hlt)]
        exact filter_numbered hrest hmem

/-! ## Fields of answers -/

/-- The field is the parsed text of an answer with the number of the gap put in. -/
def IsFieldOf (entry : Nat × String) (field : Field) : Prop :=
  ∃ parsed, Field.parse .cloze entry.2 = .ok parsed ∧ field = { parsed with gap := some entry.1 }

theorem buildFields_cloze {id : String} : ∀ {index : Nat} {answers : List AuthoredAnswer}
    {fields : List Field}, buildFields id .cloze index answers = .ok fields →
      List.Forall₂ IsFieldOf (numbered index answers) fields
  | _, [], fields, h => by
      obtain rfl := Except.ok.inj h
      exact List.Forall₂.nil
  | index, answer :: rest, fields, h => by
      rw [buildFields] at h
      rw [numbered]
      split at h
      · rename_i hempty
        rw [if_pos hempty]
        exact buildFields_cloze h
      · rename_i hempty
        rw [if_neg hempty]
        cases hparse : Field.parse .cloze answer.pattern with
        | error diagnostics => simp [buildField, hparse] at h
        | ok parsed =>
            simp only [buildField, hparse] at h
            cases hrest : buildFields id .cloze (index + 1) rest with
            | error e => simp [hrest, Except.map] at h
            | ok others =>
                rw [hrest] at h
                obtain rfl := Except.ok.inj h
                exact List.Forall₂.cons ⟨parsed, hparse, rfl⟩ (buildFields_cloze hrest)

theorem gaps_eq_numbers {entries : List (Nat × String)} {question : Question}
    (h : List.Forall₂ IsFieldOf entries question.fields) :
    question.gaps = entries.map (·.1) := by
  have hlength := h.length_eq
  refine List.ext_getElem (by simp [Question.gaps, hlength]) fun i hi hi' => ?_
  have hfields : i < question.fields.length := by simpa [Question.gaps] using hi
  obtain ⟨parsed, -, hfield⟩ := h.get (by simpa using hi') hfields
  rw [List.get_eq_getElem, List.get_eq_getElem] at hfield
  simp [Question.gaps, Field.gapAt, hfield]

theorem fields_gap_eq {entries : List (Nat × String)} {fields : List Field}
    (h : List.Forall₂ IsFieldOf entries fields) :
    fields.map (·.gap) = entries.map fun entry => some entry.1 := by
  induction h with
  | nil => rfl
  | cons hfield _ ih =>
      obtain ⟨parsed, -, rfl⟩ := hfield
      simp [ih]

end AuthoredQuestion

/-! ## Built questions -/

namespace Question

/-- A cloze question as its text asks for it: its gaps are those that the text marks, in order, and
each has one field, which is that of its answer with nothing but the number put in. Then whoever
fills all gaps can be graded, and there is something to earn. -/
structure FitsText (question : Question) (authored : AuthoredQuestion) : Prop where
  increasing : question.gaps.Pairwise (· < ·)
  nonempty : question.gaps ≠ []
  marked : question.gaps = (gapReferences authored.text).mergeSort (· ≤ ·)
  numbered : question.fields.map (·.gap) = question.gaps.map some
  own : ∀ gap ∈ question.gaps, ∃ index answer parsed, gap = index + 1
    ∧ authored.answers[index]? = some answer ∧ answer.pattern.isEmpty = false
    ∧ Field.parse .cloze answer.pattern = .ok parsed
    ∧ question.fields.filter (fun field => field.gap == some gap)
      = [{ parsed with gap := some gap }]
  gradable : ∀ response, question.isComplete response = true → question.isGradable response = true
  worth : Binary64.lt 0 question.maxPoints = true

/-- With at least one gap, filling every gap is filling some gap. -/
theorem isGradable_of_isComplete {question : Question} (hne : question.gaps ≠ [])
    {response : Response} (h : question.isComplete response = true) :
    question.isGradable response = true := by
  cases response with
  | single answer => exact h
  | cloze answers =>
      obtain ⟨gap, hgap⟩ := List.exists_mem_of_ne_nil _ hne
      exact List.any_eq_true.mpr ⟨gap, hgap, List.all_eq_true.mp h gap hgap⟩

theorem maxPoints_positive {question : Question} (hcloze : question.flavor = .cloze)
    (hne : question.fields ≠ []) (h : ∀ field ∈ question.fields, field.points.Positive) :
    Binary64.lt 0 question.maxPoints = true := by
  obtain ⟨field, rest, hfields⟩ := List.exists_cons_of_ne_nil hne
  rw [Binary64.positive_iff, maxPoints, hcloze, hfields]
  refine Binary64.sum_positive ?_
  intro points hpoints
  obtain ⟨other, hother, rfl⟩ := List.mem_map.mp (List.map_cons ▸ hpoints)
  exact h other (hfields ▸ hother)

/-- Two lists of gaps, of which the one is ordered and none has a gap twice, that have the same
gaps: the other one is in another order. -/
theorem eq_mergeSort {gaps marked : List Nat} (hgaps : gaps.Pairwise (· < ·))
    (hmarked : marked.Nodup) (h : ∀ gap, gap ∈ gaps ↔ gap ∈ marked) :
    gaps = marked.mergeSort (· ≤ ·) := by
  have hnodup : gaps.Nodup := hgaps.imp fun hlt => Nat.ne_of_lt hlt
  have hperm : gaps.Perm (marked.mergeSort (· ≤ ·)) :=
    ((List.perm_ext_iff_of_nodup hnodup hmarked).mpr h).trans (List.mergeSort_perm _ _).symm
  exact hperm.eq_of_pairwise (fun a b _ _ hab hba => Nat.le_antisymm hab hba)
    (hgaps.imp Nat.le_of_lt) List.sortedLE_mergeSort.pairwise

/-- A cloze question that was built is the one that its text asks for. -/
theorem build_fitsText {authored : AuthoredQuestion} {question : Question}
    (hbuild : authored.build = .ok question) (hcloze : authored.flavor = .cloze) :
    question.FitsText authored := by
  obtain ⟨hvalid, hflavor, hfields⟩ := AuthoredQuestion.valid_of_build hbuild
  obtain ⟨hfitted, hne⟩ := AuthoredQuestion.build_fitted hbuild
  rw [AuthoredQuestion.validate, hcloze] at hvalid
  rw [hcloze] at hfields
  obtain ⟨hnodup, -, hmarked, -⟩ := (ValidationReport.isValid_cloze_iff _ _).mp hvalid
  have hentries := AuthoredQuestion.buildFields_cloze hfields
  have hgaps := AuthoredQuestion.gaps_eq_numbers hentries
  have hincreasing := AuthoredQuestion.numbered_increasing 0 authored.answers
  have hquestion : question.flavor = .cloze := hflavor.trans hcloze
  have hgapsne : question.gaps ≠ [] := by
    simpa [gaps, List.mapIdx_eq_nil_iff] using hne hquestion
  refine ⟨hgaps ▸ hincreasing, hgapsne, ?_, ?_, ?_, fun _ => isGradable_of_isComplete hgapsne,
    maxPoints_positive hquestion (hne hquestion)
      fun field hfield => (hfitted field hfield).positive⟩
  · refine eq_mergeSort (hgaps ▸ hincreasing) hnodup fun gap => ?_
    rw [hgaps, AuthoredQuestion.mem_numbered_iff_hasAnswer, hmarked]
  · rw [hgaps, List.map_map]
    exact AuthoredQuestion.fields_gap_eq hentries
  · intro gap hgap
    rw [hgaps] at hgap
    obtain ⟨⟨number, pattern⟩, hentry, rfl⟩ := List.mem_map.mp hgap
    obtain ⟨index, answer, hanswer, rfl, hempty, hnumber⟩ :=
      AuthoredQuestion.mem_numbered.mp hentry
    have hsingle : List.Forall₂ AuthoredQuestion.IsFieldOf [(number, answer.pattern)]
        (question.fields.filter fun field => field.gap == some number) := by
      rw [← AuthoredQuestion.filter_numbered hincreasing hentry]
      refine List.rel_filter ?_ hentries
      rintro entry field ⟨parsed, -, rfl⟩
      simp
    obtain ⟨field, others, ⟨parsed, hparse, rfl⟩, hnil, hown⟩ :=
      List.forall₂_cons_left_iff.mp hsingle
    rw [List.forall₂_nil_left_iff.mp hnil] at hown
    exact ⟨index, answer, parsed, by omega, hanswer, hempty, hparse, hown⟩

/-- Two answers among empty ones, and the markers for them in the other order. -/
def amongEmpty : AuthoredQuestion :=
  ⟨"q", "q", .cloze, "[[4]] [[2]]", [⟨"", 1⟩, ⟨"[[a]]//", 1⟩, ⟨"", 1⟩, ⟨"[[b]]//", 1⟩]⟩

def amongEmptyBuilt : Question :=
  let field (gap : Nat) (body : String) : Field :=
    { Field.empty with gap := some gap, subPatterns := [⟨[body], 100, "", .default⟩] }
  ⟨"q", "q", .cloze, "[[4]] [[2]]", [field 2 "a", field 4 "b"]⟩

theorem amongEmpty_fitsText :
    amongEmpty.build = .ok amongEmptyBuilt ∧ amongEmpty.flavor = .cloze
      ∧ amongEmptyBuilt.FitsText amongEmpty := by
  have hbuild : amongEmpty.build = .ok amongEmptyBuilt :=
    AuthoredQuestion.build_of_toOption (by decide +kernel)
  exact ⟨hbuild, rfl, build_fitsText hbuild rfl⟩

end Question

end Gapfill
