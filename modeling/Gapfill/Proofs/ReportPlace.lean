import Gapfill.Proofs.Calendar.Texts
import Gapfill.Proofs.MadeDirectories
import Gapfill.Proofs.QuestionDirectory
import Gapfill.Proofs.SavedReports

/-!
# Where a report is saved

The file for a report is named by the identifier of the question, the time and an
ending. The name is put behind the output directory as it is, so the path is that of
a file right in the directory exactly if there is no slash in the identifier
(`GradeReport.isChild_pathIn_iff`): a piece between slashes has none
(`Path.no_slash_of_mem_pieces`), and without one the ending makes it a name that a
file can have.

Then the directories above the file are those on the way to the output directory,
and writing the file changes one place in it, so nothing else on the disk comes, goes
or changes (`Machine.save_changedInside`). What the command does before it saves only
looks at the disk (`Machine.Looks`), so this is what a whole run of it does
(`Machine.grade_savesInside`).
-/

namespace Gapfill

open Entry (IsName)

/-! ## Paths of children -/

namespace Path

variable {directory path name piece : String}

/-- The path leads one step on from the directory, by this name. -/
structure IsChild (directory path name : String) : Prop where
  isAbsolute : Path.isAbsolute path = Path.isAbsolute directory
  steps : Path.steps path = Path.steps directory ++ [name]

theorem no_slash_of_mem_pieces (h : piece ∈ pieces path) : '/' ∉ piece.toList := by
  obtain ⟨text, htext, rfl⟩ := List.mem_map.mp h
  rw [String.toList_ofList]
  exact notMem_of_mem_splitFrom List.not_mem_nil (List.mem_filter.mp htext).1

theorem mem_pieces_of_mem_steps (h : piece ∈ steps path) : piece ∈ pieces path := by
  unfold steps at h
  cases hpieces : pieces path with
  | nil =>
      rw [hpieces] at h
      exact h
  | cons first rest =>
      rw [hpieces] at h
      dsimp only at h
      split at h
      · exact List.mem_cons_of_mem _ (List.mem_of_mem_filter h)
      · exact (List.filter_sublist.cons_cons first).subset h

theorem isChild_join (hname : IsName name) : IsChild directory (join directory name) name := by
  refine ⟨isAbsolute_join hname, ?_⟩
  rw [← below_singleton, steps_below (List.forall_mem_singleton.mpr hname)]

theorem IsChild.no_slash (h : IsChild directory path name) : '/' ∉ name.toList := by
  have hname : name ∈ Path.steps path := by
    rw [h.steps]
    exact List.mem_append_right _ List.mem_cons_self
  exact no_slash_of_mem_pieces (mem_pieces_of_mem_steps hname)

end Path

/-! ## The name of the file -/

theorem no_slash_paddedText (width n : Nat) : '/' ∉ (paddedText width n).toList :=
  fun h => ne_of_isDigit ((spelling_paddedText width n).isDigit _ h) (by decide) rfl

namespace Instant

theorem no_slash_yearText (year : Int) : '/' ∉ (yearText year).toList := by
  unfold yearText
  split
  · exact no_slash_paddedText _ _
  · rw [String.toList_append, List.mem_append, not_or]
    refine ⟨?_, no_slash_paddedText _ _⟩
    split <;> decide

theorem no_slash_compactText (t : Instant) : '/' ∉ t.compactText.toList := by
  simp [compactText, no_slash_yearText, no_slash_paddedText]

end Instant

namespace GradeReport

variable {report : GradeReport} {directory : String}

theorem fileName_eq {question : Question} {stamp : Stamp}
    (hquestion : report.question = .ofQuestion question) (hstamp : report.stamp = stamp) :
    report.fileName = question.id ++ "-" ++ stamp.time.compactText ++ ".json" := by
  rw [fileName, hquestion, hstamp]
  rfl

theorem no_slash_fileName_iff :
    '/' ∉ report.fileName.toList ↔ '/' ∉ report.question.id.toList := by
  simp [fileName, Instant.no_slash_compactText]

theorem isName_fileName (h : '/' ∉ report.question.id.toList) : IsName report.fileName := by
  have hlength : report.fileName.toList.length = report.question.id.toList.length + 1
      + report.stamp.time.compactText.toList.length + 5 := by
    simp only [fileName, String.toList_append, List.length_append]
    rfl
  have hne : ∀ short : String, short.toList.length < 6 → report.fileName ≠ short := by
    rintro short hshort rfl
    omega
  exact ⟨hne "" (by decide), no_slash_fileName_iff.mpr h, hne "." (by decide), hne ".." (by decide)⟩

/-- The path of the file is that of a child of the directory exactly if the identifier of the
question has no slash in it. -/
theorem isChild_pathIn_iff :
    Path.IsChild directory (report.pathIn directory) report.fileName
      ↔ '/' ∉ report.question.id.toList :=
  ⟨fun h => no_slash_fileName_iff.mp h.no_slash, fun h => Path.isChild_join (isName_fileName h)⟩

end GradeReport

/-! ## Changes in a directory -/

namespace Disk

variable {disk disk' : Disk} {root : Entry} {directory path name content : String}
  {names place found : List String}

/-- The names that lead nowhere make no difference to where the others lead. -/
theorem follow_filter : ∀ {names place : List String}, follow root place names = .ok found →
    follow root place (names.filter (· != ".")) = .ok found
  | [], _, h => h
  | name :: names, place, h => by
      rw [← List.singleton_append] at h ⊢
      obtain ⟨next, hname, hnames⟩ := follow_append_eq_ok_iff.mp h
      rw [List.filter_append]
      by_cases hdot : name = "."
      · subst hdot
        rw [follow_dot (follow_cons hname)] at hname
        obtain rfl := Except.ok.inj hname
        exact follow_filter hnames
      · have hkept : [name].filter (· != ".") = [name] :=
          List.filter_cons_of_pos (bne_iff_ne.mpr hdot)
        rw [hkept]
        exact follow_append_eq_ok_iff.mpr ⟨next, hname, follow_filter hnames⟩

theorem locate_steps (h : disk.locate (Path.isAbsolute path) (Path.pieces path) = .ok place) :
    disk.locate (Path.isAbsolute path) (Path.steps path) = .ok place := by
  unfold Path.steps
  cases hpieces : Path.pieces path with
  | nil => rwa [hpieces] at h
  | cons first rest =>
      rw [hpieces, ← List.singleton_append] at h
      dsimp only
      by_cases hdot : (first == "." && Path.isAbsolute path) = true
      · rw [if_pos hdot]
        obtain ⟨hfirst, -⟩ := Bool.and_eq_true_iff.mp hdot
        have hkept := follow_filter h
        rwa [beq_iff_eq.mp hfirst] at hkept
      · rw [if_neg hdot, ← List.singleton_append]
        obtain ⟨next, hfirst, hrest⟩ := follow_append_eq_ok_iff.mp h
        exact follow_append_eq_ok_iff.mpr ⟨next, hfirst, follow_filter hrest⟩

/-- The place has this name in the directory that the path leads to. -/
def IsPlaceIn (disk : Disk) (directory name : String) (place : List String) : Prop :=
  ∃ above, disk.locate (Path.isAbsolute directory) (Path.steps directory) = .ok above
    ∧ place = above ++ [name]

theorem isPlaceIn_of_resolve (hname : IsName name)
    (h : disk.resolve (Path.join directory name) = .ok place) :
    disk.IsPlaceIn directory name place := by
  have hlist := List.forall_mem_singleton.mpr hname
  have hnames : Path.names (Path.join directory name) = Path.pieces directory ++ [name] := by
    rw [← Path.below_singleton, Path.names_below hlist (List.cons_ne_nil _ _)]
  obtain ⟨-, hlocate⟩ := locate_of_resolve h
  rw [hnames, Path.isAbsolute_join hname] at hlocate
  obtain ⟨above, habove, hthere⟩ := follow_append_eq_ok_iff.mp hlocate
  refine ⟨above, locate_steps habove, ?_⟩
  have hdirectory : disk.root.HasDirectory (above ++ [name].dropLast) := by
    simpa using follow_cons hthere
  rw [follow_eq_reached hlist hdirectory] at hthere
  exact (reached_eq_ok_iff.mp hthere).2

theorem SameBut.changedOnly (h : disk.SameBut place disk') :
    disk.ChangedOnly (fun _ => False) (· = place) disk' where
  here := h.here
  kept place := (h.directories place).mpr
  directories place hplace := .inl ((h.directories place).mp hplace)
  files := h.files

/-- Nothing has changed but in the directory that the path leads to. There the file with this name
may be new or have another text, and directories on the way to it may be new. -/
def ChangedInside (directory name : String) (disk disk' : Disk) : Prop :=
  disk.ChangedOnly (disk'.OnWay (Path.isAbsolute directory) (Path.steps directory))
    (disk'.IsPlaceIn directory name) disk'

/-- The directories above the file are those on the way to the one that it is in. -/
theorem ensureAbove_join (disk : Disk) (directory : String) (hname : IsName name) :
    disk.MakesWay (Path.isAbsolute directory) (Path.steps directory)
      (disk.ensureAbove (Path.join directory name)).2 := by
  have hchild : Path.IsChild directory (Path.join directory name) name := Path.isChild_join hname
  have h := ensureAbove_makesWay disk (Path.join directory name)
  rwa [hchild.isAbsolute, hchild.steps, List.dropLast_concat] at h

theorem MakesWay.changedInside
    (h : disk.MakesWay (Path.isAbsolute directory) (Path.steps directory) disk') :
    disk.ChangedInside directory name disk' :=
  h.mono (fun _ => id) fun _ => False.elim

/-- The file is written when the directories have been made. -/
theorem MakesWay.write {made : Disk} (hname : IsName name)
    (hmade : disk.MakesWay (Path.isAbsolute directory) (Path.steps directory) made)
    (hwrite : made.write (Path.join directory name) content = .ok disk') :
    disk.ChangedInside directory name disk' := by
  obtain ⟨place, hplace⟩ : ∃ place, made.resolve (Path.join directory name) = .ok place := by
    unfold Disk.write at hwrite
    split at hwrite
    · cases hwrite
    · exact ⟨_, ‹_›⟩
  have hchanged := (sameBut_write hplace hwrite).changedOnly
  obtain ⟨above, habove, rfl⟩ := isPlaceIn_of_resolve hname hplace
  refine (hmade.mono (fun _ hway => hway.changed hchanged) fun _ => False.elim).trans
    (hchanged.mono (fun _ => False.elim) ?_)
  rintro _ rfl
  exact ⟨above, hchanged.locate_eq habove, rfl⟩

end Disk

/-! ## What saving changes -/

namespace Machine

variable {machine : Machine} {report : GradeReport} {directory : String}

/-- Without a slash in the identifier, saving changes nothing but in the directory. If it fails
halfway this holds too. -/
theorem save_changedInside (h : '/' ∉ report.question.id.toList) :
    machine.disk.ChangedInside directory report.fileName
      (machine.save report directory).2.disk := by
  have hname := GradeReport.isName_fileName h
  have hmade := Disk.ensureAbove_join machine.disk directory hname
  rw [save_eq]
  unfold GradeReport.pathIn
  split
  · rename_i hfault
    rw [hfault] at hmade
    exact hmade.changedInside
  · rename_i disk hdone
    rw [hdone] at hmade
    cases hwrite : disk.write (Path.join directory report.fileName) report.text with
    | error fault => exact hmade.changedInside
    | ok written => exact hmade.write hname hwrite

/-! ## What only looks -/

/-- To run the action leaves the world as it is. -/
def Looks {α : Type} (action : StateM Machine α) : Prop :=
  ∀ machine, (action.run machine).2 = machine

section

variable {α β : Type}

theorem Looks.run_eq {action : StateM Machine α} (h : Looks action) (machine : Machine) :
    action.run machine = pure ((action.run machine).1, machine) := by
  conv_lhs => rw [← Prod.mk.eta (p := action.run machine), h machine]
  rfl

theorem looks_pure (a : α) : Looks (pure a) := fun _ => rfl

theorem Looks.bind {action : StateM Machine α} {next : α → StateM Machine β} (h : Looks action)
    (hnext : ∀ a, Looks (next a)) : Looks (action >>= next) := by
  intro machine
  rw [StateT.run_bind, h.run_eq, pure_bind]
  exact hnext _ machine

theorem looks_read (path : String) : Looks (Host.read path : StateM Machine _) := fun _ => rfl

theorem looks_pathExists (path : String) : Looks (Host.pathExists path : StateM Machine _) :=
  fun _ => rfl

theorem looks_environment : Looks (Host.environment : StateM Machine _) := fun _ => rfl

theorem looks_find (environment : Environment) (path? : Option String) :
    Looks (Settings.find environment path? : StateM Machine _) := by
  cases path? with
  | some path =>
      refine (looks_pathExists path).bind fun there => ?_
      cases there <;> exact looks_pure _
  | none =>
      refine (looks_pathExists _).bind fun there => ?_
      cases there with
      | true => exact looks_pure _
      | false =>
          unfold Settings.userPath?
          cases environment.lookup "HOME" with
          | none => exact looks_pure _
          | some home => exact (looks_pathExists _).bind fun _ => looks_pure _

theorem looks_readAt (environment : Environment) (path : String) :
    Looks (Settings.readAt environment path : StateM Machine _) := by
  refine (looks_read path).bind fun result => ?_
  cases result with
  | error fault => exact looks_pure _
  | ok document =>
      dsimp only
      cases Settings.ofToml? document with
      | none => exact looks_pure _
      | some settings =>
          dsimp only
          cases settings.expand? environment <;> exact looks_pure _

theorem looks_settings (path? : Option String) :
    Looks (Settings.load path? : StateM Machine _) := by
  refine looks_environment.bind fun environment => ?_
  refine (looks_find environment path?).bind fun found => ?_
  match found with
  | .error e => exact looks_pure _
  | .ok none => exact looks_pure _
  | .ok (some path) =>
      refine (looks_readAt environment path).bind fun result => ?_
      cases result <;> exact looks_pure _

theorem looks_submissions (flavor : Flavor) (answers : List String) (responses? : Option String) :
    Looks (Cli.submissions flavor answers responses? : StateM Machine _) := by
  cases responses? with
  | some path =>
      refine Looks.bind ((looks_read path).bind fun result => ?_) fun _ => looks_pure _
      cases result with
      | error fault => exact looks_pure _
      | ok document =>
          dsimp only
          cases Submission.batchOfToml path document <;> exact looks_pure _
  | none =>
      unfold Cli.submissions
      dsimp only
      split <;> exact looks_pure _

end

end Machine

/-! ## The command -/

@[simp] theorem Cli.Output.failure?_after (text : String) (output : Cli.Output) :
    (Cli.Output.after text output).failure? = output.failure? := rfl

@[simp] theorem Cli.Output.notes_after (text : String) (output : Cli.Output) :
    (Cli.Output.after text output).notes = output.notes := rfl

namespace Machine

/-- Loads the settings of a run. -/
def loadSettings (machine : Machine) (path? : Option String) : Except SettingsError Settings :=
  ((Settings.load path? : StateM Machine (Except SettingsError Settings)).run machine).1

/-- The directory that a run of the grade command saves its report in, if it is to be saved. -/
def outputDirectory? (machine : Machine) (destination : Cli.Destination)
    (settings? : Option String) : Option String :=
  (machine.loadSettings settings?).toOption.bind destination.directoryFor?

/-- Grades responses to the question in a file. -/
def grade (machine : Machine) (path : String) (answers : List String)
    (responses? format? : Option String) (destination : Cli.Destination)
    (settings? : Option String) : Cli.Output × Machine :=
  (Cli.grade path answers responses? format? destination settings? :
    StateM Machine Cli.Output).run machine

section

variable {machine : Machine} {path : String} {question : Question} {answers : List String}
  {responses? format? settings? : Option String} {destination : Cli.Destination}

/-- A run on a question that loads leaves the world as it is, or it saves a report on the question
and is done with that. -/
theorem grade_cases (hquestion : machine.loadQuestion path = .ok question) :
    (∃ messages, machine.grade path answers responses? format? destination settings? =
        (.fail messages, machine))
      ∨ (machine.outputDirectory? destination settings? = none ∧ ∃ text,
        machine.grade path answers responses? format? destination settings? =
          (.print text, machine))
      ∨ ∃ report text directory, report.question = .ofQuestion question
        ∧ report.stamp = machine.stamp
        ∧ machine.outputDirectory? destination settings? = some directory
        ∧ machine.grade path answers responses? format? destination settings? =
          (.after text (machine.save report directory).1, (machine.save report directory).2) := by
  have hload : (Question.load path : StateM Machine _).run machine =
      pure (.ok question, machine) := by
    rw [run_load, hquestion]
  unfold grade outputDirectory? loadSettings
  rw [Cli.grade, StateT.run_bind, (looks_settings settings?).run_eq, pure_bind]
  cases hsettings : ((Settings.load settings? : StateM Machine _).run machine).1 with
  | error e => exact .inl ⟨_, rfl⟩
  | ok settings =>
      dsimp only
      rw [StateT.run_bind, hload, pure_bind]
      dsimp only
      rw [StateT.run_bind, (looks_submissions question.flavor answers responses?).run_eq, pure_bind]
      cases ((Cli.submissions question.flavor answers responses? : StateM Machine _).run
          machine).1 with
      | error messages => exact .inl ⟨_, rfl⟩
      | ok submissions =>
          have hstamp : (Host.stamp : StateM Machine Stamp).run machine =
              pure (machine.stamp, machine) := rfl
          let report := GradeReport.build settings.limits question submissions machine.stamp
          dsimp only
          rw [StateT.run_bind, hstamp, pure_bind]
          cases Cli.reportText? (format?.getD settings.format) report with
          | none => exact .inl ⟨_, rfl⟩
          | some text =>
              dsimp only [Except.toOption, Option.bind_some]
              cases destination.directoryFor? settings with
              | none => exact .inr (.inl ⟨rfl, text, rfl⟩)
              | some directory =>
                  refine .inr (.inr ⟨report, text, directory, rfl, rfl, rfl, ?_⟩)
                  dsimp only
                  rw [StateT.run_bind]
                  rfl

/-- A run on a question that loads saves its report in the output directory under the name that the
identifier of the question, the time and the ending make, and this is the path of a child of the
directory exactly if the identifier has no slash in it. Then nothing has changed but this file and,
if they were missing, the directories on the way to it, whether or not the run has failed.
Without an output directory nothing has changed at all. -/
theorem grade_savesInside (hquestion : machine.loadQuestion path = .ok question)
    (answers : List String) (responses? format? : Option String) (destination : Cli.Destination)
    (settings? : Option String) :
    let run := machine.grade path answers responses? format? destination settings?
    let name := question.id ++ "-" ++ machine.stamp.time.compactText ++ ".json"
    (machine.outputDirectory? destination settings? = none → run.2 = machine)
      ∧ ∀ directory, machine.outputDirectory? destination settings? = some directory →
        (run.1.failure? = none →
          run.1.notes = ["Report saved to " ++ Path.join directory name]
            ∧ ∃ report : GradeReport, report.question = .ofQuestion question
              ∧ report.stamp = machine.stamp
              ∧ run.2.disk.read (Path.join directory name) = .ok report.text)
        ∧ (Path.IsChild directory (Path.join directory name) name ↔ '/' ∉ question.id.toList)
        ∧ ('/' ∉ question.id.toList → machine.disk.ChangedInside directory name run.2.disk) := by
  intro run name
  have hchild : ∀ directory, Path.IsChild directory (Path.join directory name) name
      ↔ '/' ∉ question.id.toList := fun directory =>
    (GradeReport.build .default question [] machine.stamp).isChild_pathIn_iff
  rcases grade_cases hquestion with ⟨messages, hrun⟩ | ⟨hnone, text, hrun⟩ |
    ⟨report, text, directory, hreport, hstamp, hsome, hrun⟩
  · have hfailed : run = (.fail messages, machine) := hrun
    rw [hfailed]
    refine ⟨fun _ => rfl, fun directory _ => ⟨fun hdone => ?_, hchild directory, fun _ => ?_⟩⟩
    · cases hdone
    · exact .refl machine.disk
  · have hprinted : run = (.print text, machine) := hrun
    rw [hprinted, hnone]
    exact ⟨fun _ => rfl, nofun⟩
  · have hsaved : run = (.after text (machine.save report directory).1,
        (machine.save report directory).2) := hrun
    have hname : report.fileName = name := GradeReport.fileName_eq hreport hstamp
    have hpath : report.pathIn directory = Path.join directory name := by
      rw [GradeReport.pathIn, hname]
    have hid : report.question.id = question.id := by rw [hreport]; rfl
    rw [hsaved, hsome]
    dsimp only
    refine ⟨nofun, ?_⟩
    rintro _ ⟨⟩
    refine ⟨fun hdone => ?_, hchild directory, fun hslash => ?_⟩
    · rw [Cli.Output.failure?_after] at hdone
      rw [Cli.Output.notes_after, ← hpath]
      exact ⟨notes_of_save hdone, report, hreport, hstamp, read_of_save hdone⟩
    · rw [← hname]
      exact save_changedInside (hid ▸ hslash)

end

/-- A world with the file of a question that has one gap and this identifier. -/
def withQuestion (id : String) : Machine :=
  let text := "[question]\nid = \"" ++ id ++ "\"\nname = \"q\"\ntext = \"[[1]]\"\n" ++
    "[[answers]]\npattern = \"[[a]]//\"\n"
  ⟨⟨.directory [("q.toml", .file text)], []⟩, [], ⟨.nothing, ⟨0, 0⟩, 0⟩⟩

/-- Grades an answer to the question and saves the report in the directory `out`. -/
def gradeIntoOut (machine : Machine) : Cli.Output × Machine :=
  machine.grade "q.toml" ["1=a"] none none ⟨some "out", false⟩ none

/-- With the identifier `q` the directory is made and the report saved in it. -/
theorem plainId_savesInside :
    ∃ question, (withQuestion "q").loadQuestion "q.toml" = .ok question
      ∧ (withQuestion "q").outputDirectory? ⟨some "out", false⟩ none = some "out"
      ∧ (withQuestion "q").gradeIntoOut.1.failure? = none
      ∧ (withQuestion "q").gradeIntoOut.1.notes = ["Report saved to out/q-19700101T000000.json"]
      ∧ (withQuestion "q").disk.ChangedInside "out" "q-19700101T000000.json"
        (withQuestion "q").gradeIntoOut.2.disk := by
  have hload : ((withQuestion "q").loadQuestion "q.toml").toOption.map Question.id = some "q" := by
    decide +kernel
  have hdirectory : (withQuestion "q").outputDirectory? ⟨some "out", false⟩ none = some "out" := by
    decide +kernel
  have hdone : (withQuestion "q").gradeIntoOut.1.failure? = none := by decide +kernel
  cases hquestion : (withQuestion "q").loadQuestion "q.toml" with
  | error e =>
      rw [hquestion] at hload
      cases hload
  | ok question =>
      rw [hquestion] at hload
      have hid : question.id = "q" := Option.some.inj hload
      have hname : question.id ++ "-" ++ (withQuestion "q").stamp.time.compactText ++ ".json" =
          "q-19700101T000000.json" := by
        rw [hid]
        decide +kernel
      obtain ⟨-, hsaves⟩ := grade_savesInside hquestion ["1=a"] none none ⟨some "out", false⟩ none
      obtain ⟨hnotes, -, hinside⟩ := hsaves "out" hdirectory
      rw [hname] at hnotes hinside
      unfold gradeIntoOut at hdone ⊢
      have hplain := hinside (by rw [hid]; decide)
      exact ⟨question, rfl, hdirectory, hdone, (hnotes hdone).1, hplain⟩

/-- With the identifier `../x` the directory is made, and the report saved beside it. -/
theorem dottedId_savesBeside :
    ((withQuestion "../x").loadQuestion "q.toml").toOption.map Question.id = some "../x"
      ∧ (withQuestion "../x").gradeIntoOut.1.notes =
        ["Report saved to out/../x-19700101T000000.json"]
      ∧ ¬ Path.IsChild "out" "out/../x-19700101T000000.json" "../x-19700101T000000.json"
      ∧ (withQuestion "../x").gradeIntoOut.2.disk.root.HasFile ["x-19700101T000000.json"]
      ∧ ¬ (withQuestion "../x").disk.ChangedInside "out" "../x-19700101T000000.json"
        (withQuestion "../x").gradeIntoOut.2.disk := by
  have hfile : (withQuestion "../x").gradeIntoOut.2.disk.root.HasFile
      ["x-19700101T000000.json"] := by
    decide +kernel
  refine ⟨by decide +kernel, by decide +kernel, fun h => h.no_slash (by decide), hfile,
    fun hinside => ?_⟩
  obtain ⟨content, hcontent⟩ := hfile
  have hother : ¬ (withQuestion "../x").gradeIntoOut.2.disk.IsPlaceIn "out"
      "../x-19700101T000000.json" ["x-19700101T000000.json"] := by
    rintro ⟨above, -, heq⟩
    have hlast := congrArg List.getLast? heq
    rw [List.getLast?_concat] at hlast
    exact absurd hlast (by decide)
  have hbefore := (hinside.files _ hother content).mp hcontent
  cases hbefore

end Machine

end Gapfill
