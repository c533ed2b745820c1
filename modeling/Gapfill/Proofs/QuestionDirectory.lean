import Gapfill.Proofs.DirectoryWalk

/-!
# Loading a directory of questions

What is loaded from a directory (`Machine.loads_directory`) are the questions in what
the walk finds, as far as there are any. If a disk is the same but for one file
(`Disk.SameBut`), as it is after this file is written (`Disk.sameBut_write`), the walk
finds the same else, and all of it is read as before.

The walk finds the question files, if the path to each directory is one that the
system takes. If the path gets too long, a directory is found itself
(`Machine.slashedDirectory_listed`).
-/

namespace Gapfill

open Entry (IsName)

/-! ## Disks with one difference -/

namespace Disk

open Entry

variable {disk disk' : Disk} {directory : String} {place names changed : List String}

/-- Two disks are the same but for one file: they have the same directories, and the same files at
all other places. The file may be there in one of them only, or have another text. -/
structure SameBut (changed : List String) (disk disk' : Disk) : Prop where
  here : disk'.here = disk.here
  directories : ∀ place, disk'.root.HasDirectory place ↔ disk.root.HasDirectory place
  files : ∀ place ≠ changed, ∀ content,
    disk'.root.at? place = some (.file content) ↔ disk.root.at? place = some (.file content)

namespace SameBut

theorem resolve_eq (h : SameBut changed disk disk') (hplace : disk.resolve directory = .ok place) :
    disk'.resolve directory = .ok place :=
  resolve_of_directories hplace h.here fun above habove => (h.directories above).mpr habove

/-- At all other places there is what there was, up to what is in a directory. -/
theorem alike (h : SameBut changed disk disk') (hother : place ≠ changed) :
    Option.Rel Alike (disk.root.at? place) (disk'.root.at? place) := by
  have hfiles := h.files place hother
  have hdirectory := h.directories place
  unfold HasDirectory at hdirectory
  cases hthere : disk.root.at? place with
  | some entry =>
      cases entry with
      | file content =>
          rw [(hfiles content).mpr hthere]
          exact .some (.file content)
      | directory entries =>
          obtain ⟨entries', hthere'⟩ := hdirectory.mpr ⟨entries, hthere⟩
          rw [hthere']
          exact .some (.directory entries entries')
  | none =>
      cases hthere' : disk'.root.at? place with
      | none => exact .none
      | some entry =>
          cases entry with
          | file content => cases hthere.symm.trans ((hfiles content).mp hthere')
          | directory entries =>
              obtain ⟨others, hothers⟩ := hdirectory.mp ⟨entries, hthere'⟩
              cases hthere.symm.trans hothers

/-- Anything else below a directory is read as before. -/
theorem read_below (h : SameBut changed disk disk') (hplace : disk.resolve directory = .ok place)
    (hnames : ∀ name ∈ names, IsName name) (hne : names ≠ [])
    (hdirectories : disk.root.HasDirectory (place ++ names.dropLast))
    (hother : place ++ names ≠ changed) :
    disk'.read (Path.below directory names) = disk.read (Path.below directory names) := by
  have hresolve : disk'.resolve (Path.below directory names) =
      disk.resolve (Path.below directory names) := by
    rw [resolve_below hplace hnames hne hdirectories,
      resolve_below (h.resolve_eq hplace) hnames hne ((h.directories _).mpr hdirectories)]
  unfold read entry
  rw [hresolve]
  cases hresult : disk.resolve (Path.below directory names) with
  | error fault => rfl
  | ok found =>
      obtain ⟨-, rfl⟩ := (resolve_below_eq_ok_iff hplace hnames hne hdirectories).mp hresult
      have halike := h.alike hother
      dsimp only
      generalize disk.root.at? (place ++ names) = there, disk'.root.at? (place ++ names) = there'
        at halike
      cases halike with
      | none => rfl
      | some halike => cases halike <;> rfl

variable {root root' : Entry}

/-- Anything else is found if it was found before. -/
theorem isFound_iff (h : SameBut changed disk disk') (hroot : disk.root.at? place = some root)
    (hroot' : disk'.root.at? place = some root') (hother : place ++ names ≠ changed) :
    root'.IsFound directory names ↔ root.IsFound directory names := by
  have hdirectory : ∀ names, root'.HasDirectory names ↔ root.HasDirectory names := fun names => by
    have hsame := h.directories (place ++ names)
    unfold HasDirectory at hsame ⊢
    rwa [at?_append, at?_append, hroot, hroot'] at hsame
  have hshows : ∀ names, root'.Shows directory names ↔ root.Shows directory names := fun names => by
    rw [shows_iff, shows_iff, hdirectory]
  have hsome : (root'.at? names).isSome ↔ (root.at? names).isSome := by
    have halike := h.alike hother
    rw [at?_append, at?_append, hroot, hroot', Option.bind_some, Option.bind_some] at halike
    generalize root.at? names = there, root'.at? names = there' at halike
    cases halike <;> simp
  constructor
  · rintro ⟨hthere, hnamed, habove, hhidden⟩
    exact ⟨hsome.mp hthere, hnamed, (hshows _).mp habove, mt (hshows _).mpr hhidden⟩
  · rintro ⟨hthere, hnamed, habove, hhidden⟩
    exact ⟨hsome.mpr hthere, hnamed, (hshows _).mpr habove, mt (hshows _).mp hhidden⟩

end SameBut

/-- A disk on which a file was written is the same but for this file. -/
theorem sameBut_write {path text : String} (hplace : disk.resolve path = .ok place)
    (h : disk.write path text = .ok disk') : disk.SameBut place disk' := by
  unfold write at h
  rw [hplace] at h
  dsimp only at h
  split at h
  · cases h
  · rename_i hnone
    have hnot : ¬ disk.root.HasDirectory place :=
      fun ⟨entries, hentries⟩ => hnone entries hentries
    have habove := resolve_inDirectory hplace
    obtain rfl := Except.ok.inj h
    refine ⟨rfl, fun other => ?_, fun other hne content => ?_⟩
    · by_cases heq : other = place
      · subst heq
        refine iff_of_false ?_ hnot
        rintro ⟨entries, hentries⟩
        rw [insert_at?_self _ habove] at hentries
        cases hentries
      · exact hasDirectory_iff_of_alike (insert_alike (bare_file text) habove hnot heq)
    · exact at?_eq_file_iff_of_alike (insert_alike (bare_file text) habove hnot hne) content

end Disk

/-! ## What is loaded -/

namespace Machine

/-- Loads the question in a file. -/
def loadQuestion (machine : Machine) (path : String) : Except QuestionError Question :=
  ((Question.load path : StateM Machine (Except QuestionError Question)).run machine).1

variable {machine machine' : Machine}

/-- What the question in a file is, if the file can be read. -/
theorem run_load_eq (machine : Machine) (path : String) :
    (Question.load path : StateM Machine (Except QuestionError Question)).run machine =
      pure (match machine.disk.read path with
        | .error fault => .error (.unreadable path fault)
        | .ok document =>
          match AuthoredQuestion.ofToml path document with
          | .error cause => .error (.authoring cause)
          | .ok question => question.build.mapError (.build path), machine) := by
  have hread : StateT.run (Host.read path : StateM Machine (Except DiskFault String)) machine =
      pure (machine.disk.read path, machine) := rfl
  simp only [Question.load, AuthoredQuestion.load, StateT.run_bind, hread, pure_bind]
  cases machine.disk.read path with
  | error fault => rfl
  | ok document =>
      dsimp only
      cases AuthoredQuestion.ofToml path document with
      | error cause => rfl
      | ok question =>
          simp only [StateT.run_pure, pure_bind]
          cases question.build <;> rfl

theorem run_load (machine : Machine) (path : String) :
    (Question.load path : StateM Machine (Except QuestionError Question)).run machine =
      pure (machine.loadQuestion path, machine) := by
  rw [loadQuestion, run_load_eq]
  rfl

/-- What is loaded depends on the text of the file only. -/
theorem loadQuestion_congr {path : String} (h : machine'.disk.read path = machine.disk.read path) :
    machine'.loadQuestion path = machine.loadQuestion path := by
  unfold loadQuestion
  rw [run_load_eq, run_load_eq, h]
  rfl

theorem run_loadAll (machine : Machine) (paths : List String) :
    (Question.loadAll paths : StateM Machine (List Question)).run machine =
      pure (paths.filterMap fun path => (machine.loadQuestion path).toOption, machine) := by
  induction paths with
  | nil => rfl
  | cons path paths ih =>
      rw [Question.loadAll, StateT.run_bind, run_load, pure_bind]
      cases hload : machine.loadQuestion path with
      | error e =>
          rw [List.filterMap_cons_none (by rw [hload]; rfl)]
          exact ih
      | ok question =>
          rw [List.filterMap_cons_some (by rw [hload]; rfl)]
          simp only [StateT.run_bind, ih, pure_bind]
          rfl

/-- What is found below a directory, which is `root`, and the questions that are loaded from there;
`found` has the names that lead to it. -/
structure LoadsDirectory (machine : Machine) (directory : String) (root : Entry)
    (found : List (List String)) : Prop where
  mem_iff : ∀ names, names ∈ found ↔ root.IsFound directory names
  /-- Each path is less than the next, by its steps. -/
  ordered : (found.map (Path.below directory)).Pairwise fun path path' =>
    Path.steps path < Path.steps path'
  files : (Question.filesIn directory : StateM Machine (Except QuestionError (List String))).run
    machine = pure (.ok (found.map (Path.below directory)), machine)
  /-- The number of levels does not cut anything off. -/
  levels : ∀ levels ≥ Disk.maxPath, (Question.filesWithin levels directory :
      StateM Machine (Except QuestionError (List String))).run machine =
    (Question.filesIn directory : StateM Machine (Except QuestionError (List String))).run machine
  questions : (Question.loadDirectory directory :
      StateM Machine (Except QuestionError (List Question))).run machine =
    pure (.ok (found.filterMap fun names =>
      (machine.loadQuestion (Path.below directory names)).toOption), machine)

variable {directory : String} {place : List String} {entries : List (String × Entry)}

/-- What the walk collects is what is loaded. -/
theorem loadsDirectory_of_collects (hsound : (Entry.directory entries).Sound)
    {found : List (List String)} (h : ∀ levels ≥ Disk.maxPath,
      machine.Collects levels directory (.directory entries) found) :
    machine.LoadsDirectory directory (.directory entries) found := by
  obtain ⟨hrun, hmem, hordered⟩ := h Disk.maxPath (Nat.le_refl _)
  have hfiles : (Question.filesIn directory :
      StateM Machine (Except QuestionError (List String))).run machine =
        pure (.ok (found.map (Path.below directory)), machine) := hrun
  have hnames : ∀ names ∈ found, ∀ name ∈ names, IsName name := fun names hfound =>
    ((hmem names).mp hfound).isName hsound
  refine ⟨hmem, ?_, hfiles, fun levels hlevels => (h levels hlevels).run.trans hfiles.symm, ?_⟩
  · refine List.pairwise_map.mpr (hordered.imp_of_mem fun hfound hfound' hlt => ?_)
    exact (Path.steps_below_lt_iff (hnames _ hfound) (hnames _ hfound')).mpr hlt
  · rw [Question.loadDirectory, StateT.run_bind, hfiles, pure_bind]
    simp only [StateT.run_bind, run_loadAll, pure_bind, List.filterMap_map]
    rfl

/-- Below a directory of a sound tree, what has the name of a question file and does not show as a
directory is found, each once and in the strict order of the paths, wherever the directories that
lead there show as such; and what is loaded are the questions, in this order, of what can be loaded.
If the path to every directory is one that the system takes, the question files are found, at any
depth, and nothing else. If one file comes, goes or gets another text, anywhere on the disk, the
others stay in their order and are loaded as before. -/
theorem loads_directory (hplace : machine.disk.resolve directory = .ok place)
    (hentries : machine.disk.root.at? place = some (.directory entries))
    (hsound : machine.disk.root.Sound) :
    ∃ found, machine.LoadsDirectory directory (.directory entries) found
      ∧ ((∀ names, (Entry.directory entries).HasDirectory names → Path.Fits directory names) →
        ∀ names, names ∈ found ↔ (Entry.directory entries).HasFile names
          ∧ ∃ name ∈ names.getLast?, Path.IsQuestionName name)
      ∧ ∀ (machine' : Machine) (changed : List String), machine.disk.SameBut changed machine'.disk →
        machine'.disk.root.Sound →
        ∃ entries' found', machine'.disk.root.at? place = some (.directory entries')
          ∧ machine'.LoadsDirectory directory (.directory entries') found'
          ∧ found'.filter (fun names => place ++ names ≠ changed) =
            found.filter (fun names => place ++ names ≠ changed)
          ∧ ∀ names ∈ found, place ++ names ≠ changed →
            machine'.loadQuestion (Path.below directory names) =
              machine.loadQuestion (Path.below directory names) := by
  have hbelow := hsound.at? hentries
  obtain ⟨found, hfound⟩ := exists_collects_forall hsound hplace hentries
  obtain ⟨-, hmem, hordered⟩ := hfound Disk.maxPath (Nat.le_refl _)
  refine ⟨found, loadsDirectory_of_collects hbelow hfound,
    fun hfits names => (hmem names).trans (Entry.isFound_iff_of_fits hfits),
    fun machine' changed hsame hsound' => ?_⟩
  obtain ⟨entries', hentries'⟩ := (hsame.directories place).mpr ⟨entries, hentries⟩
  obtain ⟨found', hfound'⟩ := exists_collects_forall hsound' (hsame.resolve_eq hplace) hentries'
  obtain ⟨-, hmem', hordered'⟩ := hfound' Disk.maxPath (Nat.le_refl _)
  refine ⟨entries', found', hentries',
    loadsDirectory_of_collects (hsound'.at? hentries') hfound', ?_, fun names hnames hother => ?_⟩
  · refine (hordered'.filter _).eq_of_mem_iff (hordered.filter _) fun names => ?_
    simp only [List.mem_filter, decide_eq_true_eq]
    refine and_congr_left fun hother => ?_
    exact (hmem' names).trans
      ((hsame.isFound_iff hentries hentries' hother).trans (hmem names).symm)
  · have hfound := (hmem names).mp hnames
    obtain ⟨others, hothers⟩ := hfound.above.there
    have hdirectories : machine.disk.root.HasDirectory (place ++ names.dropLast) :=
      ⟨others, by rw [Entry.at?_append, hentries, Option.bind_some, hothers]⟩
    exact loadQuestion_congr
      (hsame.read_below hplace (hfound.isName hbelow) hfound.ne_nil hdirectories hother)

/-- A question with one gap. -/
def oneGapText : String :=
  "[question]\nid = \"q\"\nname = \"q\"\ntext = \"[[1]]\"\n[[answers]]\npattern = \"[[a]]//\"\n"

/-- Two questions, one of them in a directory whose name has the ending, and a file with the ending
that holds none. -/
def mixedDirectory : Entry :=
  .directory [("x-a.toml", .file "not = [valid"), ("notes.txt", .file ""),
    ("x.toml", .directory [("b.toml", .file oneGapText)]),
    ("x", .directory [("z.toml", .file oneGapText)])]

def mixedMachine : Machine :=
  ⟨⟨.directory [("q", mixedDirectory)], []⟩, [], ⟨.nothing, ⟨0, 0⟩, 0⟩⟩

theorem mixedMachine_sound : mixedMachine.disk.root.Sound := by
  have hb : (Entry.directory [("b.toml", .file oneGapText)]).Sound :=
    Entry.sound_directory_iff.mpr ⟨by decide, by decide, by simp [Entry.sound_file]⟩
  have hz : (Entry.directory [("z.toml", .file oneGapText)]).Sound :=
    Entry.sound_directory_iff.mpr ⟨by decide, by decide, by simp [Entry.sound_file]⟩
  have hmixed : mixedDirectory.Sound :=
    Entry.sound_directory_iff.mpr ⟨by decide, by decide, by simp [Entry.sound_file, hb, hz]⟩
  exact Entry.sound_directory_iff.mpr ⟨by decide, by decide, by simp [hmixed]⟩

theorem mixedDirectory_places {names : List String} (h : (mixedDirectory.at? names).isSome) :
    names ∈ [[], ["x-a.toml"], ["notes.txt"], ["x.toml"], ["x.toml", "b.toml"], ["x"],
      ["x", "z.toml"]] := by
  have hfile : ∀ {content names}, ((Entry.file content).at? names).isSome → names = [] := by
    intro content names h
    cases names with
    | nil => rfl
    | cons name names => cases h
  cases names with
  | nil => exact List.mem_cons_self
  | cons name names =>
      obtain ⟨entry, hentry, hbelow⟩ := Entry.exists_mem_of_isSome h
      simp only [List.mem_cons, Prod.mk.injEq, List.not_mem_nil, or_false] at hentry
      rcases hentry with ⟨rfl, rfl⟩ | ⟨rfl, rfl⟩ | ⟨rfl, rfl⟩ | ⟨rfl, rfl⟩
      · simp [hfile hbelow]
      · simp [hfile hbelow]
      all_goals
        cases names with
        | nil => simp
        | cons next rest =>
            obtain ⟨entry, hentry, hbelow⟩ := Entry.exists_mem_of_isSome hbelow
            obtain ⟨rfl, rfl⟩ := Prod.mk.inj (List.mem_singleton.mp hentry)
            simp [hfile hbelow]

theorem mixedDirectory_fits {names : List String} (h : mixedDirectory.HasDirectory names) :
    Path.Fits "q" names := by
  obtain ⟨entries, hentries⟩ := h
  have hplace := mixedDirectory_places (Option.isSome_iff_exists.mpr ⟨_, hentries⟩)
  simp only [List.mem_cons, List.not_mem_nil, or_false] at hplace
  rcases hplace with rfl | rfl | rfl | rfl | rfl | rfl | rfl
  · exact ⟨by decide, by decide, by simp⟩
  · cases hentries
  · cases hentries
  · exact ⟨by decide, by decide, List.forall_mem_singleton.mpr (by decide)⟩
  · cases hentries
  · exact ⟨by decide, by decide, List.forall_mem_singleton.mpr (by decide)⟩
  · cases hentries

theorem mixedDirectory_files {names : List String} :
    (mixedDirectory.HasFile names ∧ ∃ name ∈ names.getLast?, Path.IsQuestionName name) ↔
      names ∈ [["x", "z.toml"], ["x-a.toml"], ["x.toml", "b.toml"]] := by
  constructor
  · rintro ⟨⟨content, hcontent⟩, name, hlast, hnamed⟩
    have hplace := mixedDirectory_places (Option.isSome_iff_exists.mpr ⟨_, hcontent⟩)
    simp only [List.mem_cons, List.not_mem_nil, or_false] at hplace
    rcases hplace with rfl | rfl | rfl | rfl | rfl | rfl | rfl
    · cases hcontent
    · simp
    · cases hlast
      exact absurd (Path.isToml_iff.mpr hnamed) (by decide)
    · cases hcontent
    · simp
    · cases hcontent
    · simp
  · intro h
    simp only [List.mem_cons, List.not_mem_nil, or_false] at h
    rcases h with rfl | rfl | rfl
    · exact ⟨⟨_, rfl⟩, "z.toml", rfl, Path.isToml_iff.mp (by decide)⟩
    · exact ⟨⟨_, rfl⟩, "x-a.toml", rfl, Path.isToml_iff.mp (by decide)⟩
    · exact ⟨⟨_, rfl⟩, "b.toml", rfl, Path.isToml_iff.mp (by decide)⟩

/-- The files come in the order of names, not of characters, by which `x-a.toml` would be the first.
Two of them are loaded, and still one if the other is overwritten. -/
theorem mixedMachine_loads :
    mixedMachine.disk.root.Sound
      ∧ (∀ names, mixedDirectory.HasDirectory names → Path.Fits "q" names)
      ∧ mixedMachine.LoadsDirectory "q" mixedDirectory
        [["x", "z.toml"], ["x-a.toml"], ["x.toml", "b.toml"]]
      ∧ (mixedMachine.loadQuestion "q/x/z.toml").toOption.isSome = true
      ∧ (mixedMachine.loadQuestion "q/x-a.toml").toOption = none
      ∧ ∀ disk, mixedMachine.disk.write "q/x/z.toml" "" = .ok disk → disk.root.Sound →
        Machine.loadQuestion { mixedMachine with disk } "q/x.toml/b.toml" =
          mixedMachine.loadQuestion "q/x.toml/b.toml" := by
  obtain ⟨found, hloads, hfiles, hothers⟩ :=
    @loads_directory mixedMachine "q" ["q"] _ rfl rfl mixedMachine_sound
  have hmem : ∀ names, names ∈ found ↔
      names ∈ [["x", "z.toml"], ["x-a.toml"], ["x.toml", "b.toml"]] := fun names =>
    (hfiles (fun _ => mixedDirectory_fits) names).trans mixedDirectory_files
  have hfound : found = [["x", "z.toml"], ["x-a.toml"], ["x.toml", "b.toml"]] := by
    have hsound : mixedDirectory.Sound :=
      mixedMachine_sound.at? (show mixedMachine.disk.root.at? ["q"] = some mixedDirectory from rfl)
    have hnames : ∀ names ∈ found, ∀ name ∈ names, IsName name := fun names hnames =>
      ((hloads.mem_iff names).mp hnames).isName hsound
    have hordered : found.Pairwise (· < ·) := (List.pairwise_map.mp hloads.ordered).imp_of_mem
      fun hfound hfound' => (Path.steps_below_lt_iff (hnames _ hfound) (hnames _ hfound')).mp
    exact hordered.eq_of_mem_iff (by decide +kernel) hmem
  subst hfound
  refine ⟨mixedMachine_sound, fun _ => mixedDirectory_fits, hloads, by decide +kernel,
    by decide +kernel, fun disk hwrite hsound => ?_⟩
  have hsame : mixedMachine.disk.SameBut ["q", "x", "z.toml"] disk := Disk.sameBut_write rfl hwrite
  obtain ⟨entries', found', -, -, -, hload⟩ := hothers { mixedMachine with disk } _ hsame hsound
  exact hload ["x.toml", "b.toml"] (by decide) (by decide)

/-! ## Where paths get too long -/

/-- A directory that is named like a question file is found itself, if its path gets too long. -/
theorem run_filesIn_overlong (hplace : machine.disk.resolve directory = .ok place) {name : String}
    {below : List (String × Entry)}
    (hentries : machine.disk.root.at? place = some (.directory [(name, .directory below)]))
    (hsound : machine.disk.root.Sound) (hnamed : Path.IsQuestionName name)
    (hlong : ¬ Path.Fits directory [name]) :
    (Question.filesIn directory : StateM Machine (Except QuestionError (List String))).run machine =
      pure (.ok [Path.join directory name], machine) := by
  have hentry : [(name, Entry.directory below)].lookup name = some (.directory below) := by simp
  have hone : ∀ names, (Entry.directory [(name, .directory below)]).IsFound directory names ↔
      names ∈ [[name]] := by
    intro names
    have hhead : ∀ rest, (Entry.directory [(name, .directory below)]).IsFound directory
        (name :: rest) ↔ rest = [] ∧ Path.IsQuestionName name := fun _ =>
      Entry.isFound_cons_of_hidden (hsound.at? hentries) (Disk.fits_nil_of_resolve hplace) hentry
        fun hshows => hlong hshows.fits
    rw [List.mem_singleton]
    constructor
    · intro hfound
      obtain ⟨first, rest, rfl⟩ := List.exists_cons_of_ne_nil hfound.ne_nil
      obtain ⟨entry, hpair, -⟩ := Entry.exists_mem_of_isSome hfound.there
      obtain ⟨rfl, -⟩ := Prod.mk.inj (List.mem_singleton.mp hpair)
      rw [((hhead rest).mp hfound).1]
    · rintro rfl
      exact (hhead []).mpr ⟨rfl, hnamed⟩
  obtain ⟨found, hfound⟩ := exists_collects_forall hsound hplace hentries
  obtain ⟨hrun, hmem, hordered⟩ := hfound Disk.maxPath (Nat.le_refl _)
  obtain rfl : found = [[name]] := hordered.eq_of_mem_iff (List.pairwise_singleton _ _)
    fun names => (hmem names).trans (hone names)
  exact hrun

/-- A path to the directory `q`, with slashes at its end. -/
def slashed (n : Nat) : String := String.ofList ('q' :: List.replicate n '/')

/-- A name as long as one likes, with the ending. -/
def longName (n : Nat) : String := String.ofList ('c' :: List.replicate n 'c') ++ ".toml"

def longNamedMachine (n : Nat) : Machine :=
  ⟨⟨.directory [("q", .directory [(longName n, .directory [("notes.txt", .file "")])])], []⟩, [],
    ⟨.nothing, ⟨0, 0⟩, 0⟩⟩

variable {n m : Nat}

theorem utf8Length_replicate {c : Char} (h : c.toNat ≤ 127) :
    utf8Length (List.replicate n c) = n := by
  rw [utf8Length_ascii fun d hd => List.eq_of_mem_replicate hd ▸ h, List.length_replicate]

theorem toList_slashed : (slashed n).toList = 'q' :: List.replicate n '/' := String.toList_ofList

theorem utf8Length_slashed : utf8Length (slashed n).toList = n + 1 := by
  rw [toList_slashed, utf8Length, utf8Length_replicate (by decide), Nat.add_comm]
  rfl

theorem toList_longName : (longName n).toList = 'c' :: List.replicate n 'c' ++ ".toml".toList := by
  rw [longName, String.toList_append, String.toList_ofList]

theorem utf8Length_longName : utf8Length (longName n).toList = n + 6 := by
  rw [toList_longName, utf8Length_append, utf8Length, utf8Length_replicate (by decide)]
  have hc : 'c'.utf8Size = 1 := rfl
  have hending : utf8Length ".toml".toList = 5 := rfl
  rw [hc, hending]
  omega

theorem isName_longName : IsName (longName n) := by
  have hne : ∀ c rest, c ≠ 'c' → longName n ≠ String.ofList (c :: rest) := by
    intro c rest hc h
    have hlist := congrArg String.toList h
    simp only [toList_longName, String.toList_ofList, List.cons_append] at hlist
    exact hc (List.cons.inj hlist).1.symm
  refine ⟨fun h => ?_, ?_, hne '.' [] (by decide), hne '.' ['.'] (by decide)⟩
  · have hlist := congrArg String.toList h
    rw [toList_longName] at hlist
    cases hlist
  · rw [toList_longName]
    simp

theorem isQuestionName_longName : Path.IsQuestionName (longName n) :=
  ⟨String.ofList ('c' :: List.replicate n 'c'), by simp [← String.toList_inj], rfl⟩

theorem longNamedMachine_sound : (longNamedMachine n).disk.root.Sound := by
  have hq : IsName "q" := by decide
  have hnotes : IsName "notes.txt" := by decide
  have hbelow : (Entry.directory [("notes.txt", .file "")]).Sound :=
    Entry.sound_directory_iff.mpr ⟨by simp, by simpa using hnotes, by simp [Entry.sound_file]⟩
  have hdirectory : (Entry.directory [(longName n, .directory [("notes.txt", .file "")])]).Sound :=
    Entry.sound_directory_iff.mpr ⟨by simp, by simpa using isName_longName, by simpa using hbelow⟩
  exact Entry.sound_directory_iff.mpr ⟨by simp, by simpa using hq, by simpa using hdirectory⟩

theorem at?_q : (longNamedMachine n).disk.root.at? ["q"] =
    some (.directory [(longName n, .directory [("notes.txt", .file "")])]) := rfl

theorem hasDirectory_longName :
    (longNamedMachine n).disk.root.HasDirectory ["q", longName n] := by
  refine ⟨[("notes.txt", .file "")], ?_⟩
  rw [← List.singleton_append, Entry.at?_append, at?_q, Option.bind_some, Entry.at?,
    List.lookup_cons_self]
  rfl

theorem names_slashed : Path.names (slashed (n + 1)) = ["q", "."] := by
  have hlast : (slashed (n + 1)).toList.getLast? = some '/' := by
    rw [toList_slashed, List.replicate_succ', ← List.cons_append, List.getLast?_concat]
  have hpieces : Path.pieces (slashed (n + 1)) = ["q"] :=
    Path.pieces_append_slashes ['q'] (n + 1)
  rw [Path.names, hlast, hpieces]
  rfl

theorem resolve_slashed (h : n + 2 ≤ Disk.maxPath) :
    (longNamedMachine m).disk.resolve (slashed (n + 1)) = .ok ["q"] := by
  have hzero : (slashed (n + 1)).toList.contains '\x00' = false := by simp [toList_slashed]
  have hempty : (slashed (n + 1)).isEmpty = false := by
    simp [← String.toList_eq_nil_iff, toList_slashed]
  have hrelative : Path.isAbsolute (slashed (n + 1)) = false := by
    rw [Path.isAbsolute, toList_slashed]
    rfl
  unfold Disk.resolve
  rw [hzero, hempty, utf8Length_slashed, names_slashed, hrelative, if_neg Bool.false_ne_true,
    if_neg Bool.false_ne_true, if_neg (Nat.not_lt.mpr h)]
  rfl

/-- The path to `q` takes 3881 bytes and the name 250: together they are too long. So the walk gives
the path to the directory that is in `q`, though there is no file that is named like a question
file. -/
theorem slashedDirectory_listed :
    (longNamedMachine 244).disk.root.Sound
      ∧ (longNamedMachine 244).disk.resolve (slashed 3880) = .ok ["q"]
      ∧ (longNamedMachine 244).disk.root.HasDirectory ["q", longName 244]
      ∧ (Question.filesIn (slashed 3880) :
          StateM Machine (Except QuestionError (List String))).run (longNamedMachine 244) =
        pure (.ok [Path.join (slashed 3880) (longName 244)], longNamedMachine 244) := by
  have hplace := resolve_slashed (n := 3879) (m := 244) (by decide)
  have hname : IsName (longName 244) := isName_longName
  have hlong : ¬ Path.Fits (slashed 3880) [longName 244] := by
    intro hfits
    have hjoin := Path.utf8Length_add_le_join (slashed 3880) hname
    rw [utf8Length_slashed, utf8Length_longName, ← Path.below_singleton] at hjoin
    exact absurd (Nat.le_trans hjoin hfits.length_le) (by decide)
  exact ⟨longNamedMachine_sound, hplace, hasDirectory_longName (n := 244),
    run_filesIn_overlong hplace (at?_q (n := 244)) longNamedMachine_sound isQuestionName_longName
      hlong⟩

end Machine

end Gapfill
