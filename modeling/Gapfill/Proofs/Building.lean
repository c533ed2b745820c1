import Gapfill.Proofs.Authored.CleanBlock
import Gapfill.Question.Authored

/-!
# Validating and building agree

`AuthoredQuestion.build` validates a question and then reads its answers once
more. Both walk the answers by themselves; they agree on what they read, because
a refused field comes with a diagnostic (`Field.parse_error_ne_nil`) and a report
never loses the last problem (`record_ne_nil`). So nothing that validation lets
pass is refused as unreadable.

Only the shares of the mark are not looked at by validation. A question of the
single flavor is refused for a share that is none, with a clean report
(`build_ok_iff`).
-/

namespace Gapfill

/-! ## A refused field has a diagnostic -/

theorem readBlockBody_diagnostics_ne_nil {options : Options} {source text : List Char}
    {first : Bool} {weight pos : Nat}
    (h : (readBlockBody options source first weight pos text).rest = none) :
    (readBlockBody options source first weight pos text).diagnostics ≠ [] := by
  intro hnil
  obtain ⟨b⟩ := exists_cleanBlock hnil
  rw [b.readBlockBody_eq] at h
  exact absurd h (Option.some_ne_none _)

theorem readBlock_diagnostics_ne_nil {options : Options} {source text : List Char} {first : Bool}
    {pos : Nat} (h : (readBlock options source first pos text).rest = none) :
    (readBlock options source first pos text).diagnostics ≠ [] := by
  unfold readBlock at h ⊢
  split at h
  · rename_i hfirst
    rw [if_pos hfirst]
    exact readBlockBody_diagnostics_ne_nil h
  · rename_i hfirst
    rw [if_neg hfirst]
    split at h
    · simp [BlockReading.stop]
    · exact readBlockBody_diagnostics_ne_nil h

theorem readBlocks_diagnostics_ne_nil {options : Options} {source : List Char} : ∀ {fuel : Nat}
    {first : Bool} {pos : Nat} {text : List Char},
    (readBlocks options source fuel first pos text).rest = none →
      (readBlocks options source fuel first pos text).diagnostics ≠ []
  | 0, _, _, _, h => by simp [readBlocks] at h
  | fuel + 1, first, pos, text, h => by
      rw [readBlocks] at h ⊢
      dsimp only at h ⊢
      split at h
      · simp only [List.append_ne_nil_of_right_ne_nil _ (readBlocks_diagnostics_ne_nil h),
          ne_eq, not_false_eq_true]
      · exact readBlock_diagnostics_ne_nil h

/-- Whatever is refused, the author is told why. -/
theorem Field.parse_error_ne_nil {flavor : Flavor} {text : String} {diagnostics : List Diagnostic}
    (h : Field.parse flavor text = .error diagnostics) : diagnostics ≠ [] := by
  unfold Field.parse Field.parseSource at h
  dsimp only at h
  split at h
  · rename_i hrest
    exact Except.error.inj h ▸ readBlocks_diagnostics_ne_nil hrest
  · split at h
    · split at h
      · simp at h
      · rename_i hne
        exact Except.error.inj h ▸ hne
    · rename_i hne
      exact Except.error.inj h ▸ hne

/-! ## Reports -/

namespace ValidationReport

theorem record_ne_nil (field : FormField) (diagnostic : Diagnostic) (report : ValidationReport) :
    report.record field diagnostic ≠ [] := by
  cases report with
  | nil => simp [record]
  | cons entry rest =>
      rw [record]
      split
      · simp
      · split <;> simp

/-- Problems recorded one after the other leave a clean report only if there were none. -/
theorem foldl_record_eq_nil {α : Type} {field : FormField} (problem : α → Diagnostic) :
    ∀ {problems : List α} {report : ValidationReport},
      problems.foldl (fun report a => report.record field (problem a)) report = [] →
        report = [] ∧ problems = []
  | [], _, h => ⟨h, rfl⟩
  | a :: problems, report, h => by
      rw [List.foldl_cons] at h
      exact absurd (foldl_record_eq_nil problem h).1 (record_ne_nil _ _ _)

/-- The text of an answer, if there is one, is that of a field. -/
def Readable (flavor : Flavor) (text : String) : Prop :=
  text.isEmpty = false → ∃ field, Field.parse flavor text = .ok field

theorem checkField_eq_nil {flavor : Flavor} {text : String} {field : FormField}
    {report : ValidationReport} (h : checkField flavor text field report = []) :
    report = [] ∧ ∃ parsed, Field.parse flavor text = .ok parsed := by
  unfold checkField at h
  split at h
  · rename_i parsed hparse
    exact ⟨h, parsed, hparse⟩
  · rename_i diagnostics hparse
    exact absurd (foldl_record_eq_nil (fun d => d) h).2
      (Field.parse_error_ne_nil hparse)

theorem checkSingleAnswers_eq_nil : ∀ {index : Nat} {texts : List String}
    {report : ValidationReport}, checkSingleAnswers index texts report = [] →
      report = [] ∧ ∀ text ∈ texts, Readable .single text
  | _, [], _, h => ⟨h, by simp⟩
  | index, text :: rest, report, h => by
      rw [checkSingleAnswers] at h
      obtain ⟨hhead, hrest⟩ := checkSingleAnswers_eq_nil h
      split at hhead
      · rename_i hempty
        exact ⟨hhead, List.forall_mem_cons.mpr ⟨fun hne => by simp [hempty] at hne, hrest⟩⟩
      · obtain ⟨hreport, hparse⟩ := checkField_eq_nil hhead
        exact ⟨hreport, List.forall_mem_cons.mpr ⟨fun _ => hparse, hrest⟩⟩

theorem checkClozeAnswers_eq_nil {gaps : List Nat} : ∀ {index : Nat} {texts : List String}
    {report : ValidationReport}, checkClozeAnswers gaps index texts report = [] →
      report = [] ∧ ∀ text ∈ texts, Readable .cloze text
  | _, [], _, h => ⟨h, by simp⟩
  | index, text :: rest, report, h => by
      rw [checkClozeAnswers] at h
      obtain ⟨hhead, hrest⟩ := checkClozeAnswers_eq_nil h
      split at hhead
      · rename_i hempty
        exact ⟨hhead, List.forall_mem_cons.mpr ⟨fun hne => by simp [hempty] at hne, hrest⟩⟩
      · split at hhead
        · obtain ⟨hreport, hparse⟩ := checkField_eq_nil hhead
          exact ⟨hreport, List.forall_mem_cons.mpr ⟨fun _ => hparse, hrest⟩⟩
        · exact absurd hhead (record_ne_nil _ _ _)

/-- After a clean report every answer can be read. -/
theorem ofQuestion_readable {flavor : Flavor} {text : String} {answers : List String}
    (h : (ofQuestion flavor text answers).isValid = true) :
    ∀ answer ∈ answers, Readable flavor answer := by
  have hnil : ofQuestion flavor text answers = [] := List.isEmpty_iff.mp h
  unfold ofQuestion at hnil
  cases flavor with
  | single => exact (checkSingleAnswers_eq_nil hnil).2
  | cloze => exact (checkClozeAnswers_eq_nil (foldl_record_eq_nil _ hnil).1).2

end ValidationReport

/-! ## Building -/

namespace AuthoredQuestion

/-- An answer that building has nothing against. -/
def Accepted (flavor : Flavor) (answer : AuthoredAnswer) : Prop :=
  answer.pattern.isEmpty = false → flavor = .single → isShare answer.fraction = true

theorem buildField_ok_iff (id : String) (index : Nat) {flavor : Flavor} {answer : AuthoredAnswer}
    {parsed : Field} (hparse : Field.parse flavor answer.pattern = .ok parsed) :
    (∃ field, buildField id flavor index answer = .ok field) ↔
      (flavor = .single → isShare answer.fraction = true) := by
  unfold buildField
  simp only [hparse]
  cases flavor with
  | cloze => simp
  | single =>
      by_cases hshare : isShare answer.fraction = true
      · simp [hshare]
      · simp [hshare]

theorem buildFields_ok_iff (id : String) {flavor : Flavor} : ∀ (index : Nat)
    {answers : List AuthoredAnswer},
    (∀ answer ∈ answers, ValidationReport.Readable flavor answer.pattern) →
      ((∃ fields, buildFields id flavor index answers = .ok fields) ↔
        ∀ answer ∈ answers, Accepted flavor answer)
  | index, [], _ => by simp [buildFields]
  | index, answer :: rest, h => by
      obtain ⟨hanswer, hrest⟩ := List.forall_mem_cons.mp h
      have ih := buildFields_ok_iff id (index + 1) hrest
      rw [List.forall_mem_cons, ← ih, buildFields]
      split
      · rename_i hempty
        have : Accepted flavor answer := fun hne => by simp [hempty] at hne
        simp [this]
      · rename_i hempty
        have hne : answer.pattern.isEmpty = false := by simpa using hempty
        obtain ⟨parsed, hparse⟩ := hanswer hne
        have hfield := buildField_ok_iff id index hparse
        have haccepted : Accepted flavor answer ↔
            ∃ field, buildField id flavor index answer = .ok field := by
          rw [hfield]
          exact ⟨fun h => h hne, fun h _ => h⟩
        rw [haccepted]
        cases buildField id flavor index answer with
        | error e => simp
        | ok field =>
            cases buildFields id flavor (index + 1) rest <;> simp [Except.map]

theorem buildFields_not_unreadable (id : String) {flavor : Flavor} : ∀ (index : Nat)
    {answers : List AuthoredAnswer},
    (∀ answer ∈ answers, ValidationReport.Readable flavor answer.pattern) →
      ∀ i name diagnostics,
        buildFields id flavor index answers ≠ .error (.unreadableAnswer i name diagnostics)
  | _, [], _, _, _, _ => by simp [buildFields]
  | index, answer :: rest, h, i, name, diagnostics => by
      obtain ⟨hanswer, hrest⟩ := List.forall_mem_cons.mp h
      have ih := buildFields_not_unreadable id (index + 1) hrest i name diagnostics
      rw [buildFields]
      split
      · exact ih
      · rename_i hempty
        obtain ⟨parsed, hparse⟩ := hanswer (by simpa using hempty)
        have hfield : buildField id flavor index answer ≠
            .error (.unreadableAnswer i name diagnostics) := by
          unfold buildField
          simp only [hparse]
          cases flavor with
          | cloze => simp
          | single => dsimp only; split <;> simp
        cases hbuild : buildField id flavor index answer with
        | error e =>
            rw [hbuild] at hfield
            exact fun heq => hfield (congrArg Except.error (Except.error.inj heq))
        | ok field =>
            cases hfields : buildFields id flavor (index + 1) rest with
            | error e => rw [hfields] at ih; simpa [Except.map] using ih
            | ok fields => simp [Except.map]

/-- A question is built exactly if its report is clean and, in the single flavor, the share of
every answer is one. No answer is found to be unreadable after a clean report. -/
theorem build_ok_iff (question : AuthoredQuestion) :
    ((∃ built, question.build = .ok built) ↔
        question.validate.isValid = true
          ∧ ∀ answer ∈ question.answers, Accepted question.flavor answer)
      ∧ ∀ index id diagnostics,
        question.build ≠ .error (.unreadableAnswer index id diagnostics) := by
  unfold build
  dsimp only
  by_cases hvalid : question.validate.isValid = true
  · have hreadable : ∀ answer ∈ question.answers,
        ValidationReport.Readable question.flavor answer.pattern := fun answer hanswer =>
      ValidationReport.ofQuestion_readable hvalid _ (List.mem_map_of_mem hanswer)
    have hfields := buildFields_ok_iff question.id 0 hreadable
    have hunreadable := buildFields_not_unreadable question.id 0 hreadable
    rw [if_pos hvalid, ← hfields]
    cases hbuilt : buildFields question.id question.flavor 0 question.answers with
    | error e =>
        refine ⟨by simp [Except.map], fun index id diagnostics => ?_⟩
        have := hunreadable index id diagnostics
        rw [hbuilt] at this
        simpa [Except.map] using this
    | ok fields => exact ⟨by simp [Except.map, hvalid], fun _ _ _ => by simp [Except.map]⟩
  · rw [if_neg hvalid]
    simp [hvalid]

/-- A question with a clean report that is refused for the share of its answer. -/
theorem share_refused_after_clean_report :
    let question : AuthoredQuestion :=
      ⟨"q", "q", .single, "", [⟨"[[a]]//", .ofDecimal false 15 (-1)⟩]⟩
    question.validate.isValid = true ∧ question.build.toOption = none := by
  decide +kernel

end AuthoredQuestion

end Gapfill
