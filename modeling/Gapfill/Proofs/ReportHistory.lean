import Mathlib.Data.List.Induction
import Gapfill.Proofs.ReportContents

/-!
# What a report was told last

A report that is changed step by step keeps one problem for each input, the one recorded last,
and it lists these problems in the order of the inputs (`run_current`).

A text that is checked counts as its last problem alone, for those before it are gone when it has
been recorded (`checkField_eq`). So a run is told as a history, the list of all that it records,
and a report shows a history if it is in order and each input has the last problem that the history
has for it (`Shows`). One more recording keeps that (`Shows.record`), hence every step and every
run does. The gaps of a question text are checked by recordings too, which makes the report on a
text the end of a history like any other (`Start.shows`).
-/

namespace Gapfill

/-! ## Inputs in order -/

namespace FormField

/-- The index of an answer. -/
def index? : FormField → Option Nat
  | questionText => none
  | answer index => some index

theorem before_irrefl (field : FormField) : field.before field = false := by
  cases field <;> simp [before]

theorem before_questionText (field : FormField) : field.before .questionText = false := by
  cases field <;> rfl

theorem ne_of_before {a b : FormField} (h : a.before b = true) : a ≠ b := by
  rintro rfl
  rw [before_irrefl] at h
  exact Bool.noConfusion h

theorem index?_lt_of_before {a b : FormField} (h : a.before b = true) {i j : Nat}
    (hi : a.index? = some i) (hj : b.index? = some j) : i < j := by
  cases a with
  | questionText => cases hi
  | answer =>
      cases b with
      | questionText => cases hj
      | answer =>
          obtain rfl := Option.some.inj hi
          obtain rfl := Option.some.inj hj
          exact of_decide_eq_true h

/-- Inputs in order are the question text, if it is one of them, and then answers. -/
theorem eq_append_answers : ∀ {fields : List FormField},
    fields.Pairwise (fun a b => a.before b = true) →
      fields = (if .questionText ∈ fields then [.questionText] else [])
        ++ (fields.filterMap index?).map .answer
  | [], _ => rfl
  | field :: rest, h => by
      obtain ⟨hfirst, hrest⟩ := List.pairwise_cons.mp h
      have hnot : .questionText ∉ rest := fun hmem => by
        have hbefore := hfirst _ hmem
        rw [before_questionText] at hbefore
        exact Bool.noConfusion hbefore
      have ih := eq_append_answers hrest
      rw [if_neg hnot, List.nil_append] at ih
      cases field with
      | questionText =>
          rw [if_pos List.mem_cons_self]
          exact congrArg (List.cons _) ih
      | answer index =>
          rw [if_neg (by simpa using hnot)]
          exact congrArg (List.cons _) ih

end FormField

namespace ValidationReport

/-! ## Steps and histories -/

/-- Problems in the order in which they are recorded. -/
abbrev History := List (FormField × Diagnostic)

/-- The problem that was recorded last for an input. -/
def History.lastFor (history : History) (field : FormField) : Option Diagnostic :=
  (history.filter (·.1 = field)).getLast?.map (·.2)

/-- What is done at a report: a problem is recorded for an input, or a text is checked as that of
a field and its problems are recorded for an input. -/
inductive Step where
  | record (field : FormField) (diagnostic : Diagnostic)
  | checkField (flavor : Flavor) (text : String) (field : FormField)

namespace Step

/-- The input that a step is about. -/
def field : Step → FormField
  | record field _ => field
  | checkField _ _ field => field

def apply : Step → ValidationReport → ValidationReport
  | record field d, report => report.record field d
  | checkField flavor text field, report => report.checkField flavor text field

/-- What a step adds to the history. A text that can be read adds nothing. -/
def recorded? : Step → Option (FormField × Diagnostic)
  | record field d => some (field, d)
  | checkField flavor text field => (refusal? flavor text).map fun d => (field, d)

end Step

/-- The report after steps that are taken one after the other. -/
def run (report : ValidationReport) (steps : List Step) : ValidationReport :=
  steps.foldl (fun report step => step.apply report) report

/-- Each mark of a gap that has been marked before, in the order of the marks. -/
def repeats (gaps : List Nat) : List Nat :=
  (gaps.zipIdx.filter fun (gap, index) => gap ∈ gaps.take index).map (·.1)

/-- What is wrong with the gaps of a question text by themselves. -/
def gapProblems (gaps : List Nat) : List Problem :=
  if gaps = [] then [.noGaps] else (repeats gaps).map .duplicatedGap

/-- Where a run begins: without any problem, or with the report on a question text. -/
inductive Start where
  | empty
  | questionText (text : String)

namespace Start

def report : Start → ValidationReport
  | empty => []
  | questionText text => ofQuestionText text

/-- What has been recorded when a run begins. -/
def history : Start → History
  | empty => []
  | questionText text =>
    (gapProblems (gapReferences text)).map fun problem => (.questionText, ⟨problem, none⟩)

end Start

/-! ## What one step does -/

/-- A problem takes the place of the one recorded before it. -/
theorem record_record (field : FormField) (d d' : Diagnostic) : ∀ report : ValidationReport,
    (report.record field d).record field d' = report.record field d'
  | [] => by simp [record, FormField.before_irrefl]
  | (f, e) :: rest => by
      rw [record, record]
      by_cases hbefore : field.before f = true
      · simp [hbefore, record, FormField.before_irrefl]
      · by_cases heq : field = f
        · simp [heq, record, FormField.before_irrefl]
        · simp [hbefore, heq, record, record_record field d d' rest]

theorem filter_record (field : FormField) (d : Diagnostic) : ∀ report : ValidationReport,
    (report.record field d).filter (·.1 ≠ field) = report.filter (·.1 ≠ field)
  | [] => by simp [record]
  | (f, e) :: rest => by
      rw [record]
      split
      · simp
      · split
        · rename_i heq
          simp [heq]
        · rw [List.filter_cons, List.filter_cons, filter_record field d rest]

/-- Of the problems of a text only the last one is recorded for good. -/
theorem checkField_eq (flavor : Flavor) (text : String) (field : FormField)
    (report : ValidationReport) :
    report.checkField flavor text field =
      (refusal? flavor text).elim report (report.record field) := by
  unfold checkField refusal?
  cases Field.parse flavor text with
  | ok parsed => rfl
  | error diagnostics =>
      dsimp only
      -- from the end: what is recorded before the last problem is one problem again, which it hides
      induction diagnostics using List.reverseRecOn with
      | nil => rfl
      | append_singleton earlier last ih =>
          rw [List.foldl_append, ih, List.getLast?_concat]
          cases earlier.getLast? with
          | none => rfl
          | some d => exact record_record field d last report

namespace Step

theorem get?_apply_of_ne (step : Step) (report : ValidationReport) {field : FormField}
    (h : field ≠ step.field) : (step.apply report).get? field = report.get? field := by
  cases step with
  | record other d => exact (get?_record ..).trans (if_neg h)
  | checkField flavor text other =>
      have hne : field ≠ other := h
      rw [apply, get?_checkField, if_neg hne, Option.none_or]

theorem filter_apply (step : Step) (report : ValidationReport) :
    (step.apply report).filter (·.1 ≠ step.field) = report.filter (·.1 ≠ step.field) := by
  cases step with
  | record field d => exact filter_record field d report
  | checkField flavor text field =>
      rw [apply, checkField_eq]
      cases refusal? flavor text with
      | none => rfl
      | some d => exact filter_record field d report

/-- The errors of the other inputs stay, and stay in order. -/
theorem filter_toErrors_apply (step : Step) (report : ValidationReport) :
    (step.apply report).toErrors.filter (·.field ≠ step.field) =
      report.toErrors.filter (·.field ≠ step.field) := by
  rw [toErrors, toErrors, List.filter_map, List.filter_map]
  exact congrArg _ (step.filter_apply report)

end Step

/-! ## Histories that are shown -/

theorem History.lastFor_append (history later : History) (field : FormField) :
    (history ++ later).lastFor field = (later.lastFor field).or (history.lastFor field) := by
  rw [lastFor, List.filter_append, List.getLast?_append, Option.map_or]
  rfl

theorem History.lastFor_singleton (field other : FormField) (d : Diagnostic) :
    lastFor [(field, d)] other = if other = field then some d else none := by
  by_cases h : other = field
  · simp [lastFor, h]
  · simp [lastFor, h, Ne.symm h]

/-- The report is in order, and of all that was recorded for an input it has the last problem. -/
structure Shows (history : History) (report : ValidationReport) : Prop where
  ordered : report.Ordered
  current : ∀ field, report.get? field = history.lastFor field

namespace Shows

variable {history : History} {report : ValidationReport}

theorem nil : Shows [] [] where
  ordered := List.Pairwise.nil
  current _ := rfl

theorem record (h : Shows history report) (field : FormField) (d : Diagnostic) :
    Shows (history ++ [(field, d)]) (report.record field d) where
  ordered := h.ordered.record
  current other := by
    rw [get?_record, History.lastFor_append, History.lastFor_singleton, h.current other]
    split <;> rfl

theorem apply (h : Shows history report) (step : Step) :
    Shows (history ++ step.recorded?.toList) (step.apply report) := by
  cases step with
  | record field d => exact h.record field d
  | checkField flavor text field =>
      rw [Step.apply, checkField_eq, Step.recorded?]
      cases refusal? flavor text with
      | none => simpa using h
      | some d => exact h.record field d

theorem run (h : Shows history report) (steps : List Step) :
    Shows (history ++ steps.filterMap Step.recorded?) (report.run steps) := by
  induction steps generalizing history report with
  | nil =>
      rw [List.filterMap_nil, List.append_nil]
      exact h
  | cons step steps ih =>
      have hrecorded : history ++ (step :: steps).filterMap Step.recorded? =
          (history ++ step.recorded?.toList) ++ steps.filterMap Step.recorded? := by
        cases hentry : step.recorded? <;> simp [hentry]
      rw [hrecorded]
      exact ih (h.apply step)

end Shows

/-! ## The report on a question text -/

theorem repeats_append (gaps : List Nat) (last : Nat) :
    repeats (gaps ++ [last]) = repeats gaps ++ if last ∈ gaps then [last] else [] := by
  -- the marks before the last one look back at the same marks as without it
  have hearlier : gaps.zipIdx.filter (fun (gap, index) => gap ∈ (gaps ++ [last]).take index) =
      gaps.zipIdx.filter fun (gap, index) => gap ∈ gaps.take index := by
    refine List.filter_congr fun (gap, index) hmem => ?_
    have hindex : index < gaps.length + 0 := List.snd_lt_of_mem_zipIdx hmem
    dsimp only
    rw [List.take_append_of_le_length (by omega)]
  unfold repeats
  rw [List.zipIdx_append, List.filter_append, hearlier, List.map_append]
  by_cases h : last ∈ gaps <;> simp [h]

theorem checkRepeats_shows (gaps : List Nat) :
    Shows ((repeats gaps).map fun gap => (.questionText, ⟨.duplicatedGap gap, none⟩))
      (checkRepeats [] gaps []) := by
  induction gaps using List.reverseRecOn with
  | nil => exact .nil
  | append_singleton gaps last ih =>
      rw [repeats_append, checkRepeats_append]
      by_cases h : last ∈ gaps
      · rw [if_pos h, if_pos (Or.inl h), List.map_append]
        exact ih.record _ _
      · rw [if_neg h, if_neg (by simpa using h), List.append_nil]
        exact ih

theorem Start.shows (start : Start) : Shows start.history start.report := by
  cases start with
  | empty => exact .nil
  | questionText text =>
      rw [history, report, ofQuestionText, checkGaps, gapProblems]
      cases gapReferences text with
      | nil => exact Shows.nil.record _ _
      | cons gap gaps =>
          rw [if_neg (List.cons_ne_nil _ _), List.map_map]
          exact checkRepeats_shows (gap :: gaps)

/-! ## Lists of errors -/

/-- The errors are those of the report: each input that has a problem comes once and with this
problem, the question text first and then the answers by increasing index. -/
structure Listing (report : ValidationReport) (errors : List FieldError) : Prop where
  mem_iff : ∀ field d, ⟨field, d⟩ ∈ errors ↔ report.get? field = some d
  /-- As the indices increase, no input comes twice. -/
  inOrder : ∃ indices : List Nat, indices.Pairwise (· < ·) ∧
    errors.map (·.field) =
      (if (report.get? .questionText).isSome then [.questionText] else []) ++ indices.map .answer
  length_eq : report.length = errors.length
  isEmpty_eq : report.isEmpty = errors.isEmpty
  isValid_eq : report.isValid = errors.isEmpty

theorem Ordered.mem_iff {report : ValidationReport} (h : report.Ordered) {field : FormField}
    {d : Diagnostic} : (field, d) ∈ report ↔ report.get? field = some d := by
  rw [get?, List.lookup_eq_some_iff]
  constructor
  · intro hmem
    obtain ⟨earlier, later, rfl⟩ := List.append_of_mem hmem
    refine ⟨earlier, later, rfl, fun entry hentry => ?_⟩
    have hbefore := (List.pairwise_append.mp h).2.2 entry hentry _ List.mem_cons_self
    simpa using (FormField.ne_of_before hbefore).symm
  · rintro ⟨earlier, later, rfl, -⟩
    exact List.mem_append_right _ List.mem_cons_self

theorem Ordered.listing {report : ValidationReport} (h : report.Ordered) :
    report.Listing report.toErrors where
  mem_iff field d := by
    rw [← h.mem_iff, toErrors, List.mem_map]
    constructor
    · rintro ⟨entry, hentry, heq⟩
      obtain ⟨rfl, rfl⟩ := FieldError.mk.inj heq
      exact hentry
    · exact fun hmem => ⟨_, hmem, rfl⟩
  inOrder := by
    have hfields : (report.map (·.1)).Pairwise fun a b => a.before b = true :=
      List.pairwise_map.mpr h
    have hquestion : (report.get? .questionText).isSome = true ↔
        .questionText ∈ report.map (·.1) := by
      rw [Option.isSome_iff_exists, List.mem_map]
      simp only [← h.mem_iff]
      exact ⟨fun ⟨d, hd⟩ => ⟨_, hd, rfl⟩, fun ⟨(_, d), hd, heq⟩ => ⟨d, heq ▸ hd⟩⟩
    refine ⟨(report.map (·.1)).filterMap FormField.index?, ?_, ?_⟩
    · exact List.Pairwise.filterMap FormField.index? (fun _ _ hbefore _ hi _ hj =>
        FormField.index?_lt_of_before hbefore hi hj) hfields
    · simp only [hquestion, toErrors, List.map_map]
      exact FormField.eq_append_answers hfields
  length_eq := (List.length_map _).symm
  isEmpty_eq := List.isEmpty_map.symm
  isValid_eq := List.isEmpty_map.symm

/-! ## Reports after a run -/

/-- After any steps each input shows what was recorded last for it, and the list of errors shows
just that. The next step leaves the other inputs as they are, and a text that is checked either
leaves all as it is or has its last problem recorded. -/
theorem run_current (start : Start) (steps : List Step) :
    let history := start.history ++ steps.filterMap Step.recorded?
    let report := start.report.run steps
    (∀ field, report.get? field = history.lastFor field)
      ∧ report.Listing report.toErrors
      ∧ (∀ step : Step,
          (∀ field, field ≠ step.field → (step.apply report).get? field = report.get? field)
            ∧ (step.apply report).toErrors.filter (·.field ≠ step.field) =
              report.toErrors.filter (·.field ≠ step.field))
      ∧ ∀ flavor text field,
          match Field.parse flavor text with
          | .ok _ => report.checkField flavor text field = report
          | .error diagnostics => ∃ d, diagnostics.getLast? = some d
              ∧ report.checkField flavor text field = report.record field d := by
  have hshows := start.shows.run steps
  refine ⟨hshows.current, hshows.ordered.listing, fun step =>
    ⟨fun field h => step.get?_apply_of_ne _ h, step.filter_toErrors_apply _⟩, ?_⟩
  intro flavor text field
  rw [checkField_eq, refusal?]
  cases hparse : Field.parse flavor text with
  | ok parsed => rfl
  | error diagnostics =>
      have hlast := List.getLast?_eq_some_getLast (Field.parse_error_ne_nil hparse)
      dsimp only
      rw [hlast]
      exact ⟨_, rfl, rfl⟩

/-- The bare anchor of the second gap is forgotten for the unknown key behind it, and a check of
the first gap does not touch that. -/
theorem run_current_unknownKey :
    let start : Start := .questionText "[[1]] [[1]]"
    let steps : List Step := [.checkField .cloze "[[a$]]//\nfoo=1" (.answer 1),
      .record (.answer 0) ⟨.noSuchGap 1, none⟩]
    let history : History := [(.questionText, ⟨.duplicatedGap 1, none⟩),
      (.answer 1, .at (.unknownKey "foo") 9), (.answer 0, ⟨.noSuchGap 1, none⟩)]
    let report := start.report.run steps
    let next : Step := .checkField .cloze "[[b]]//" (.answer 0)
    start.history ++ steps.filterMap Step.recorded? = history
      ∧ (∀ field, report.get? field = history.lastFor field)
      ∧ .answer 1 ≠ next.field
      ∧ (next.apply report).get? (.answer 1) = report.get? (.answer 1) := by
  intro start steps history report next
  have hgaps : gapProblems (gapReferences "[[1]] [[1]]") = [.duplicatedGap 1] := rfl
  have hparse : Field.parse .cloze "[[a$]]//\nfoo=1" =
      .error [.at .unescapedAnchor 3, .at (.unknownKey "foo") 9] := by
    unfold Field.parse
    rw [String.toList_ofList]
    decide +kernel
  have hentry : (Step.checkField .cloze "[[a$]]//\nfoo=1" (.answer 1)).recorded? =
      some (.answer 1, .at (.unknownKey "foo") 9) := by
    rw [Step.recorded?, refusal?, hparse]
    rfl
  have hhistory : start.history ++ steps.filterMap Step.recorded? = history := by
    simp only [start, steps, Start.history, hgaps, List.filterMap_cons_some hentry]
    rfl
  obtain ⟨hcurrent, -, hother, -⟩ := run_current start steps
  rw [hhistory] at hcurrent
  have hne : .answer 1 ≠ next.field := by decide
  exact ⟨hhistory, hcurrent, hne, (hother next).1 _ hne⟩

end ValidationReport

end Gapfill
