import Gapfill.Cli.Grade
import Gapfill.Proofs.Files
import Gapfill.Proofs.Grading
import Gapfill.Proofs.Report.Records

/-!
# Saved reports are loaded

A report that has been built counts with numbers of 64 bits
(`GradeReport.build_storable`), and its text is read at the path where it was
written (`Machine.read_of_save`). So it is loaded, with all that it holds, as long
as its floats are finite. The floats are the exception: a text with the fewest
digits denotes its float, but reading rounds more than once, and the next float may
come out (`eleventh_is_not_loaded`). A report is loaded as it was exactly if none
of its floats is one of these (`GradeReport.load_saveReport`).
-/

namespace Gapfill

/-! ## What is counted in 64 bits -/

/-- Numbers of 64 bits count the fields, the gaps and the sub-patterns. -/
structure Question.Countable (question : Question) : Prop where
  fields : question.fields.length ≤ maxCount
  gaps : ∀ field ∈ question.fields, ∀ gap ∈ field.gap, gap ≤ maxCount
  subPatterns : ∀ field ∈ question.fields, field.subPatterns.length ≤ maxCount

/-- The time is one that there is, and the duration is counted in 64 bits. -/
structure Stamp.Valid (stamp : Stamp) : Prop where
  time : stamp.time.Valid
  milliseconds : stamp.milliseconds ≤ maxCount

theorem Field.best?_subPattern_le {field : Field} (h : field.subPatterns.length ≤ maxCount)
    (limits : Limits) (answer : String) :
    ∀ b ∈ field.best? limits answer, b.subPattern ≤ maxCount := by
  intro b hb
  obtain ⟨sub, hsub, -⟩ := (isMatch_of_best? (Option.mem_def.mp hb)).earned_eq
  exact Nat.le_trans (Nat.le_of_lt (List.getElem?_eq_some_iff.mp hsub).1) h

theorem Question.Countable.gapAt_le {question : Question} (h : question.Countable) {index : Nat}
    (hindex : index < question.fields.length) :
    question.fields[index].gapAt index ≤ maxCount := by
  unfold Field.gapAt
  cases hgap : question.fields[index].gap with
  | some gap => exact h.gaps _ (List.getElem_mem hindex) gap hgap
  | none => exact Nat.le_trans hindex h.fields

theorem Question.Countable.storable {question : Question} (h : question.Countable)
    (limits : Limits) (response : Response) :
    ∀ outcome ∈ (question.grade limits response).outcomes, outcome.Storable := by
  intro outcome houtcome
  cases response with
  | cloze answers =>
      obtain ⟨index, hindex, rfl⟩ := List.mem_mapIdx.mp houtcome
      have hsub := h.subPatterns _ (List.getElem_mem hindex)
      refine ⟨fun n hn => ?_, fun n hn => ?_⟩
      · obtain rfl := Option.some.inj hn
        exact h.gapAt_le hindex
      · obtain ⟨b, hb, rfl⟩ := Option.map_eq_some_iff.mp hn
        obtain ⟨answer, -, hbest⟩ := Option.bind_eq_some_iff.mp hb
        exact Field.best?_subPattern_le hsub limits answer b hbest
  | single answer =>
      obtain ⟨field, hfield, rfl⟩ := List.mem_map.mp houtcome
      refine ⟨h.gaps field hfield, fun n hn => ?_⟩
      obtain ⟨b, hb, rfl⟩ := Option.map_eq_some_iff.mp hn
      exact Field.best?_subPattern_le (h.subPatterns field hfield) limits answer b hb

namespace GradeReport

theorem build_storable {question : Question} {submissions : List Submission} {stamp : Stamp}
    (hquestion : question.Countable) (hsubmissions : submissions.length ≤ maxCount)
    (hstamp : stamp.Valid) (limits : Limits) :
    (build limits question submissions stamp).Storable := by
  have hcount : ∀ p : Binary64 × Classification → Bool,
      ((submissions.map (Attempt.ofSubmission limits question)).map
        fun attempt => (attempt.fraction, attempt.classification)).countP p ≤ maxCount := by
    intro p
    refine Nat.le_trans List.countP_le_length ?_
    rw [List.length_map, List.length_map]
    exact hsubmissions
  refine ⟨hstamp.time, hstamp.milliseconds, hquestion.fields, ?_, hcount _, hcount _, hcount _⟩
  intro attempt hattempt
  obtain ⟨submission, -, rfl⟩ := List.mem_map.mp hattempt
  exact hquestion.storable limits submission.response

end GradeReport

/-! ## Saving and loading -/

namespace Machine

/-- Saves a report in a directory. -/
def save (machine : Machine) (report : GradeReport) (directory : String) : Cli.Output × Machine :=
  (Cli.saveReport report directory : StateM Machine Cli.Output).run machine

/-- Loads the report in a file. -/
def load (machine : Machine) (path : String) : Except SavedReportError GradeReport × Machine :=
  (GradeReport.load path : StateM Machine (Except SavedReportError GradeReport)).run machine

theorem run_change (f : Disk → Except DiskFault Disk) (machine : Machine) :
    (change f).run machine = pure (match f machine.disk with
      | .error fault => (.error fault, machine)
      | .ok disk => (.ok (), { machine with disk })) := by
  simp only [change, StateT.run_bind, StateT.run_get, pure_bind]
  cases f machine.disk <;> rfl

theorem run_changeEach (f : Disk → Except DiskFault Unit × Disk) (machine : Machine) :
    (changeEach f).run machine =
      pure ((f machine.disk).1, { machine with disk := (f machine.disk).2 }) :=
  rfl

variable {machine : Machine} {report : GradeReport}

/-- What saving does to the files: first to directories, then to one file. -/
theorem save_eq (machine : Machine) (report : GradeReport) (directory : String) :
    machine.save report directory =
      match machine.disk.ensureAbove (report.pathIn directory) with
      | (.error fault, disk) => (.fail [fault.message], { machine with disk })
      | (.ok (), disk) =>
        match disk.write (report.pathIn directory) report.text with
        | .error fault =>
          (.fail ["failed to write report to " ++ report.pathIn directory, fault.message],
            { machine with disk })
        | .ok disk =>
          (⟨"", ["Report saved to " ++ report.pathIn directory], none⟩, { machine with disk }) := by
  have hensure : (Host.ensureAbove (report.pathIn directory) : StateM Machine _)
      = changeEach fun disk => disk.ensureAbove (report.pathIn directory) := rfl
  have hwrite : (Host.write (report.pathIn directory) report.text : StateM Machine _)
      = change fun disk => disk.write (report.pathIn directory) report.text := rfl
  simp only [save, Cli.saveReport, hensure, StateT.run_bind, run_changeEach, pure_bind]
  cases hdirs : machine.disk.ensureAbove (report.pathIn directory) with
  | mk result disk =>
      cases result with
      | error fault => rfl
      | ok done =>
          simp only [hwrite, StateT.run_bind, run_change, pure_bind]
          cases disk.write (report.pathIn directory) report.text <;> rfl

/-- Saving that does not fail has written the text. -/
theorem write_of_save {directory : String}
    (hdone : (machine.save report directory).1.failure? = none) :
    ∃ disk written : Disk, disk.write (report.pathIn directory) report.text = .ok written
      ∧ machine.save report directory =
        (⟨"", ["Report saved to " ++ report.pathIn directory], none⟩,
          { machine with disk := written }) := by
  rw [save_eq] at hdone ⊢
  split at hdone
  · cases hdone
  · rename_i disk hdirs
    cases hfile : disk.write (report.pathIn directory) report.text with
    | error fault =>
        rw [hfile] at hdone
        cases hdone
    | ok written => exact ⟨disk, written, hfile, rfl⟩

theorem notes_of_save {directory : String}
    (hdone : (machine.save report directory).1.failure? = none) :
    (machine.save report directory).1.notes = ["Report saved to " ++ report.pathIn directory] := by
  obtain ⟨disk, written, -, hsave⟩ := write_of_save hdone
  rw [hsave]

/-- The text is read at the path where it was written. -/
theorem read_of_save {directory : String}
    (hdone : (machine.save report directory).1.failure? = none) :
    (machine.save report directory).2.disk.read (report.pathIn directory) = .ok report.text := by
  obtain ⟨disk, written, hwrite, hsave⟩ := write_of_save hdone
  rw [hsave]
  exact Disk.read_write hwrite

theorem load_eq {path text : String} (h : machine.disk.read path = .ok text)
    (hreport : GradeReport.ofText? text = some report) :
    machine.load path = (.ok report, machine) := by
  have hread : StateT.run (Host.read path : StateM Machine (Except DiskFault String)) machine
      = pure (machine.disk.read path, machine) := rfl
  simp only [load, GradeReport.load, StateT.run_bind, hread, pure_bind, h, hreport]
  rfl

end Machine

namespace GradeReport

open Json (reread IsShort)

/-- A report that has been built and saved is loaded with all that it holds but for its floats, each
of which is the one that is read of its text. So the report itself is loaded exactly if these
are the same, and this is so if all of them are short. -/
theorem load_saveReport {limits : Limits} {question : Question} {submissions : List Submission}
    {stamp : Stamp} (hquestion : question.Countable) (hsubmissions : submissions.length ≤ maxCount)
    (hstamp : stamp.Valid)
    (hfinite : ∀ x ∈ (build limits question submissions stamp).floats, x.isFinite = true) :
    let report := build limits question submissions stamp
    ofText? report.text = some (report.mapFloats reread)
      ∧ (ofText? report.text = some report ↔ ∀ x ∈ report.floats, reread x = x)
      ∧ ((∀ x ∈ report.floats, IsShort x) → ofText? report.text = some report)
      ∧ ∀ (machine : Machine) (directory : String),
        (machine.save report directory).1.failure? = none →
        (machine.save report directory).2.load (report.pathIn directory)
          = (.ok (report.mapFloats reread), (machine.save report directory).2) := by
  intro report
  have hstorable : report.Storable := build_storable hquestion hsubmissions hstamp limits
  have htext := ofText?_text hstorable hfinite
  have hsame : ofText? report.text = some report ↔ ∀ x ∈ report.floats, reread x = x := by
    rw [htext, Option.some.injEq]
    exact mapFloats_eq_self_iff report
  refine ⟨htext, hsame, fun hshort => ?_, ?_⟩
  · exact hsame.mpr fun x hx => Json.reread_of_isShort (hshort x hx)
  · intro machine directory hdone
    exact Machine.load_eq (Machine.read_of_save hdone) htext

/-! ## A share that comes back and one that does not -/

/-- A report on one response that has `a` in the first gap, marked with zeros. -/
def onFirstGap (question : Question) : GradeReport :=
  build .default question [⟨"s", .cloze [(1, "a")]⟩] ⟨.nothing, ⟨0, 0⟩, 0⟩

theorem onFirstGap_storable {question : Question} (h : question.Countable) :
    (onFirstGap question).Storable :=
  build_storable h (by decide) ⟨⟨by decide +kernel, by decide, by decide⟩, by decide⟩ .default

/-- A world without files. -/
def emptyMachine : Machine := ⟨⟨.directory [], []⟩, [], ⟨.nothing, ⟨0, 0⟩, 0⟩⟩

/-- One point of two is a half, which is loaded as it was saved. -/
theorem half_is_loaded :
    (∀ x ∈ (onFirstGap Question.twoGapsBuilt).floats, x.isFinite = true)
      ∧ ofText? (onFirstGap Question.twoGapsBuilt).text = some (onFirstGap Question.twoGapsBuilt)
      ∧ (emptyMachine.save (onFirstGap Question.twoGapsBuilt) "out").1.failure? = none
      ∧ (emptyMachine.save (onFirstGap Question.twoGapsBuilt) "out").2.load
          ((onFirstGap Question.twoGapsBuilt).pathIn "out")
        = (.ok ((onFirstGap Question.twoGapsBuilt).mapFloats reread),
          (emptyMachine.save (onFirstGap Question.twoGapsBuilt) "out").2) := by
  have hcountable : Question.twoGapsBuilt.Countable := ⟨by decide, by decide, by decide⟩
  have hfinite : ∀ x ∈ (onFirstGap Question.twoGapsBuilt).floats, x.isFinite = true := by
    decide +kernel
  have hdone : (emptyMachine.save (onFirstGap Question.twoGapsBuilt) "out").1.failure? = none := by
    decide +kernel
  obtain ⟨-, -, hshort, hload⟩ := load_saveReport hcountable (by decide)
    ⟨⟨by decide +kernel, by decide, by decide⟩, by decide⟩ hfinite
  exact ⟨hfinite, hshort (by decide +kernel), hdone, hload emptyMachine "out" hdone⟩

/-- Two gaps, one worth a point and one worth ten. -/
def oneOfEleven : AuthoredQuestion :=
  ⟨"q", "q", .cloze, "[[1]] [[2]]", [⟨"[[a]]//", 1⟩, ⟨"[[b]]//\npoints=10", 1⟩]⟩

def oneOfElevenBuilt : Question :=
  let field (gap : Nat) (body : String) (points : Binary64) : Field :=
    { Field.empty with
      gap := some gap, subPatterns := [⟨[body], 100, "", .default⟩], points := points }
  ⟨"q", "q", .cloze, "[[1]] [[2]]", [field 1 "a" 1, field 2 "b" 10]⟩

/-- One point of eleven is a share with 16 digits behind two zeros. Reading divides these digits by
a power of ten, both of them rounded, and gets the next float. -/
theorem eleventh_is_not_loaded :
    oneOfEleven.build = .ok oneOfElevenBuilt
      ∧ (∀ x ∈ (onFirstGap oneOfElevenBuilt).floats, x.isFinite = true)
      ∧ ofText? (onFirstGap oneOfElevenBuilt).text ≠ some (onFirstGap oneOfElevenBuilt) := by
  have hfinite : ∀ x ∈ (onFirstGap oneOfElevenBuilt).floats, x.isFinite = true := by decide +kernel
  have hother : ¬ ∀ x ∈ (onFirstGap oneOfElevenBuilt).floats, reread x = x := by decide +kernel
  have hcountable : oneOfElevenBuilt.Countable := ⟨by decide, by decide, by decide⟩
  refine ⟨AuthoredQuestion.build_of_toOption (by decide +kernel), hfinite, ?_⟩
  rw [ofText?_text (onFirstGap_storable hcountable) hfinite]
  exact fun hsame => hother ((mapFloats_eq_self_iff _).mp (Option.some.inj hsame))

end GradeReport

end Gapfill
