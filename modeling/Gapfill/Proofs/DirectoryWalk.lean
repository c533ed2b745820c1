import Mathlib.Data.List.Flatten
import Gapfill.Proofs.PathsBelow
import Gapfill.Question.Library

/-!
# The walk through a directory

Each entry of a directory is asked for under its path. If it shows as a directory
(`Entry.Shows`), the walk goes on there, and what it finds is found from above as well
(`Entry.isFound_cons_of_shows`); else it is taken for a file, and all that counts is
its name (`Entry.isFound_cons_of_hidden`). A directory whose path is too long does not
show as one, and so it is among what is found if it is named like a question file,
while nothing below it is.

The walk is cut off after some levels, but the path gets longer with each of them.
By induction on the levels that are left: if they reach beyond the longest path,
then just what is to be found is found, in strict order (`Machine.exists_collects`). A
step is what one entry gives (`Machine.exists_collectsAt`), and each directory is put
together from its entries, one after the other (`Machine.gives_filesAmong`).
-/

namespace Gapfill

open Entry (IsName)

/-! ## What is found -/

namespace Entry

variable {root entry : Entry} {entries : List (String × Entry)}
variable {path name : String} {names more : List String}

/-- There is a directory, and the path to it is one that a system takes. -/
structure Shows (root : Entry) (path : String) (names : List String) : Prop where
  there : root.HasDirectory names
  fits : Path.Fits path names

/-- Something that is named like a question file and does not show as a directory, in a directory
that shows as one. -/
structure IsFound (root : Entry) (path : String) (names : List String) : Prop where
  there : (root.at? names).isSome
  named : ∃ name ∈ names.getLast?, Path.IsQuestionName name
  above : root.Shows path names.dropLast
  hidden : ¬ root.Shows path names

theorem shows_iff :
    root.Shows path names ↔ root.HasDirectory names ∧ Path.Fits path names :=
  ⟨fun h => ⟨h.there, h.fits⟩, fun h => ⟨h.1, h.2⟩⟩

theorem isSome_at?_iff :
    (root.at? names).isSome ↔ root.HasFile names ∨ root.HasDirectory names := by
  unfold HasFile HasDirectory
  cases root.at? names with
  | none => simp
  | some entry => cases entry <;> simp

theorem IsFound.ne_nil (h : root.IsFound path names) : names ≠ [] := by
  rintro rfl
  obtain ⟨name, hlast, -⟩ := h.named
  cases hlast

theorem IsFound.isName (h : root.IsFound path names) (hsound : root.Sound) :
    ∀ name ∈ names, IsName name := by
  obtain ⟨entry, hentry⟩ := Option.isSome_iff_exists.mp h.there
  exact hsound.isName hentry

theorem Shows.of_append (h : root.Shows path (names ++ more)) (hmore : ∀ name ∈ more, IsName name) :
    root.Shows path names :=
  ⟨Disk.hasDirectory_of_append h.there, h.fits.of_append hmore⟩

theorem shows_cons (hentry : entries.lookup name = some entry) :
    (directory entries).Shows path (name :: names) ↔
      utf8Length name.toList ≤ Disk.maxName ∧ entry.Shows (Path.join path name) names := by
  constructor
  · rintro ⟨hthere, hfits⟩
    obtain ⟨found, hfound, hbelow⟩ := hasDirectory_cons.mp hthere
    obtain rfl := Option.some.inj (hentry.symm.trans hfound)
    obtain ⟨hname, hrest⟩ := Path.fits_cons.mp hfits
    exact ⟨hname, hbelow, hrest⟩
  · rintro ⟨hname, hbelow, hrest⟩
    exact ⟨hasDirectory_cons.mpr ⟨entry, hentry, hbelow⟩, Path.fits_cons.mpr ⟨hname, hrest⟩⟩

/-- Below an entry that shows as a directory there is found what a walk from there finds. -/
theorem isFound_cons_of_shows (hentry : entries.lookup name = some entry)
    (hshows : (directory entries).Shows path [name]) :
    (directory entries).IsFound path (name :: names) ↔
      entry.IsFound (Path.join path name) names := by
  have hname := ((shows_cons hentry).mp hshows).1
  cases names with
  | nil => exact iff_of_false (fun h => h.hidden hshows) fun h => h.ne_nil rfl
  | cons next rest =>
      have hthere : (directory entries).at? (name :: next :: rest) = entry.at? (next :: rest) := by
        rw [at?, hentry]
        rfl
      have habove : (directory entries).Shows path (name :: next :: rest).dropLast ↔
          entry.Shows (Path.join path name) (next :: rest).dropLast := by
        rw [List.dropLast_cons_of_ne_nil (List.cons_ne_nil _ _), shows_cons hentry]
        exact and_iff_right hname
      have hhidden : (directory entries).Shows path (name :: next :: rest) ↔
          entry.Shows (Path.join path name) (next :: rest) :=
        (shows_cons hentry).trans (and_iff_right hname)
      constructor
      · rintro ⟨h, hnamed, hshown, hnot⟩
        exact ⟨hthere ▸ h, hnamed, habove.mp hshown, mt hhidden.mpr hnot⟩
      · rintro ⟨h, hnamed, hshown, hnot⟩
        exact ⟨hthere ▸ h, hnamed, habove.mpr hshown, mt hhidden.mp hnot⟩

/-- An entry that does not show as a directory counts by its name, and nothing is found below it. -/
theorem isFound_cons_of_hidden (hsound : (directory entries).Sound) (hpath : Path.Fits path [])
    (hentry : entries.lookup name = some entry)
    (hhidden : ¬ (directory entries).Shows path [name]) :
    (directory entries).IsFound path (name :: names) ↔
      names = [] ∧ Path.IsQuestionName name := by
  cases names with
  | nil =>
      have hthere : (directory entries).at? [name] = some entry := by
        rw [at?, hentry]
        rfl
      constructor
      · intro h
        obtain ⟨last, hlast, hnamed⟩ := h.named
        obtain rfl : name = last := Option.some.inj hlast
        exact ⟨rfl, hnamed⟩
      · rintro ⟨-, hnamed⟩
        exact ⟨by rw [hthere]; rfl, ⟨name, rfl, hnamed⟩, ⟨⟨entries, rfl⟩, hpath⟩, hhidden⟩
  | cons next rest =>
      refine iff_of_false (fun h => hhidden ?_) fun h => List.cons_ne_nil _ _ h.1
      have habove := h.above
      rw [List.dropLast_cons_of_ne_nil (List.cons_ne_nil _ _), ← List.singleton_append] at habove
      obtain ⟨others, hothers⟩ := habove.there
      have hnames := hsound.isName hothers
      exact habove.of_append (List.forall_mem_append.mp hnames).2

/-- Where all directories show as such, what is found are the question files, at any depth. -/
theorem isFound_iff_of_fits (hfits : ∀ names, root.HasDirectory names → Path.Fits path names) :
    root.IsFound path names ↔
      root.HasFile names ∧ ∃ name ∈ names.getLast?, Path.IsQuestionName name := by
  constructor
  · rintro ⟨hthere, hnamed, -, hhidden⟩
    refine ⟨?_, hnamed⟩
    refine (isSome_at?_iff.mp hthere).resolve_right fun hdirectory => hhidden ?_
    exact ⟨hdirectory, hfits names hdirectory⟩
  · rintro ⟨hfile, hnamed⟩
    obtain ⟨content, hcontent⟩ := hfile
    have hne : names ≠ [] := by
      rintro rfl
      simp at hnamed
    have habove := HasFile.hasDirectory_dropLast ⟨content, hcontent⟩ hne
    refine ⟨by rw [hcontent]; rfl, hnamed, ⟨habove, hfits _ habove⟩, fun hshows => ?_⟩
    obtain ⟨entries, hentries⟩ := hshows.there
    cases hcontent.symm.trans hentries

end Entry

/-! ## What is collected -/

namespace Machine

variable {machine : Machine} {path name : String} {place : List String} {levels : Nat}
variable {entries : List (String × Entry)} {entry : Entry} {found : List (List String)}

/-- A walk gives these paths, and leaves everything as it is. -/
def Gives (machine : Machine) (walk : StateM Machine (Except QuestionError (List String)))
    (paths : List String) : Prop :=
  walk.run machine = pure (.ok paths, machine)

/-- The walk through so many levels of a directory, which is `root`, gives the paths of what is to
be found there, in strict order. -/
structure Collects (machine : Machine) (levels : Nat) (path : String) (root : Entry)
    (found : List (List String)) : Prop where
  run : machine.Gives (Question.filesWithin levels path) (found.map (Path.below path))
  mem_iff : ∀ names, names ∈ found ↔ root.IsFound path names
  ordered : found.Pairwise (· < ·)

/-- The part of this that begins with one name. -/
structure CollectsAt (machine : Machine) (levels : Nat) (path : String) (root : Entry)
    (name : String) (found : List (List String)) : Prop where
  run : machine.Gives (Question.filesAt (Question.filesWithin levels) path name)
    (found.map (Path.below path))
  mem_iff : ∀ names, names ∈ found ↔ ∃ rest, names = name :: rest ∧ root.IsFound path names
  nodup : found.Nodup

theorem run_isDirectory (machine : Machine) (path : String) :
    StateT.run (Host.isDirectory path : StateM Machine Bool) machine =
      pure (machine.disk.isDirectory path, machine) := rfl

theorem run_list (machine : Machine) (path : String) :
    StateT.run (Host.list path : StateM Machine (Except DiskFault (List String))) machine =
      pure (machine.disk.list path, machine) := rfl

theorem hasDirectory_above (hentries : machine.disk.root.at? place = some (.directory entries)) :
    machine.disk.root.HasDirectory (place ++ [name].dropLast) :=
  ⟨entries, by simpa using hentries⟩

section

variable (hplace : machine.disk.resolve path = .ok place)
    (hentries : machine.disk.root.at? place = some (.directory entries))

include hplace hentries

/-- Asking for the path of an entry says whether it shows as a directory. -/
theorem isDirectory_join_iff (hname : IsName name) :
    machine.disk.isDirectory (Path.join path name) = true ↔
      (Entry.directory entries).Shows path [name] := by
  have hthere : machine.disk.root.HasDirectory (place ++ [name]) ↔
      (Entry.directory entries).HasDirectory [name] := by
    unfold Entry.HasDirectory
    rw [Entry.at?_append, hentries, Option.bind_some]
  rw [← Path.below_singleton, Disk.isDirectory_below_iff hplace
    (List.forall_mem_singleton.mpr hname) (List.cons_ne_nil _ _) (hasDirectory_above hentries),
    hthere, Entry.shows_iff]

theorem resolve_join_of_shows (hname : IsName name)
    (hshows : (Entry.directory entries).Shows path [name]) :
    machine.disk.resolve (Path.join path name) = .ok (place ++ [name]) := by
  exact (Disk.resolve_below_eq_ok_iff hplace (List.forall_mem_singleton.mpr hname)
    (List.cons_ne_nil _ _) (hasDirectory_above hentries)).mpr ⟨hshows.fits, rfl⟩

/-- Behind a name that shows as a directory stands what is found there. -/
theorem Collects.collectsAt (h : machine.Collects levels (Path.join path name) entry found)
    (hname : IsName name) (hentry : entries.lookup name = some entry)
    (hshows : (Entry.directory entries).Shows path [name]) :
    machine.CollectsAt levels path (.directory entries) name (found.map (name :: ·)) where
  run := by
    rw [Gives, Question.filesAt, StateT.run_bind, run_isDirectory, pure_bind,
      (isDirectory_join_iff hplace hentries hname).mpr hshows, List.map_map]
    exact h.run
  mem_iff names := by
    rw [List.mem_map]
    constructor
    · rintro ⟨rest, hrest, rfl⟩
      exact ⟨rest, rfl, (Entry.isFound_cons_of_shows hentry hshows).mpr ((h.mem_iff rest).mp hrest)⟩
    · rintro ⟨rest, rfl, hrest⟩
      exact ⟨rest, (h.mem_iff rest).mpr ((Entry.isFound_cons_of_shows hentry hshows).mp hrest), rfl⟩
  nodup := List.Nodup.map List.cons_injective (h.ordered.imp ne_of_lt)

/-- A name that does not show as a directory stands for itself, or for nothing. -/
theorem collectsAt_of_hidden (hsound : (Entry.directory entries).Sound) (hname : IsName name)
    (hentry : entries.lookup name = some entry)
    (hhidden : ¬ (Entry.directory entries).Shows path [name]) :
    machine.CollectsAt levels path (.directory entries) name
      (if Path.isToml name then [[name]] else []) := by
  have hfound : ∀ rest, (Entry.directory entries).IsFound path (name :: rest) ↔
      rest = [] ∧ Path.IsQuestionName name := fun _ =>
    Entry.isFound_cons_of_hidden hsound (Disk.fits_nil_of_resolve hplace) hentry hhidden
  refine ⟨?_, fun names => ?_, by split <;> simp⟩
  · have hnot : machine.disk.isDirectory (Path.join path name) = false :=
      Bool.eq_false_iff.mpr (mt (isDirectory_join_iff hplace hentries hname).mp hhidden)
    rw [Gives, Question.filesAt, StateT.run_bind, run_isDirectory, pure_bind, hnot]
    cases Path.isToml name <;> rfl
  · constructor
    · intro hmem
      split at hmem
      · rename_i htoml
        rw [List.mem_singleton.mp hmem]
        exact ⟨[], rfl, (hfound []).mpr ⟨rfl, Path.isToml_iff.mp htoml⟩⟩
      · cases hmem
    · rintro ⟨rest, rfl, hrest⟩
      obtain ⟨rfl, hnamed⟩ := (hfound rest).mp hrest
      rw [if_pos (Path.isToml_iff.mpr hnamed)]
      exact List.mem_singleton_self _

end

/-! ### A whole directory -/

theorem gives_filesAmong {below : String → StateM Machine (Except QuestionError (List String))}
    {found : String → List String} {names : List String}
    (h : ∀ name ∈ names, machine.Gives (Question.filesAt below path name) (found name)) :
    machine.Gives (Question.filesAmong below path names) (names.flatMap found) := by
  induction names with
  | nil => rfl
  | cons name names ih =>
      obtain ⟨hname, hrest⟩ := List.forall_mem_cons.mp h
      have hmore := ih hrest
      unfold Gives at hname hmore ⊢
      rw [Question.filesAmong, StateT.run_bind, hname, pure_bind]
      simp only [StateT.run_bind, hmore, pure_bind]
      rfl

theorem gives_filesWithin_succ (hplace : machine.disk.resolve path = .ok place)
    (hentries : machine.disk.root.at? place = some (.directory entries))
    {found : String → List String}
    (h : ∀ name ∈ entries.map Prod.fst,
      machine.Gives (Question.filesAt (Question.filesWithin levels) path name) (found name)) :
    machine.Gives (Question.filesWithin (levels + 1) path)
      (Path.inOrder ((entries.map Prod.fst).flatMap found)) := by
  have hdirectory : machine.disk.isDirectory path = true :=
    Disk.isDirectory_iff.mpr ⟨place, hplace, entries, hentries⟩
  have hlist : machine.disk.list path = .ok (entries.map Prod.fst) := by
    unfold Disk.list Disk.entry
    rw [hplace]
    dsimp only
    rw [hentries]
  have hamong := gives_filesAmong h
  unfold Gives at hamong ⊢
  rw [Question.filesWithin, StateT.run_bind, run_isDirectory, pure_bind, hdirectory]
  simp only [if_true, StateT.run_bind, run_list, pure_bind, hlist, hamong]
  rfl

section

variable {found : String → List (List String)} (hsound : (Entry.directory entries).Sound)
    (h : ∀ name ∈ entries.map Prod.fst,
      machine.CollectsAt levels path (.directory entries) name (found name))

include h

theorem mem_flatMap_iff (names : List String) :
    names ∈ (entries.map Prod.fst).flatMap found ↔
      (Entry.directory entries).IsFound path names := by
  rw [List.mem_flatMap]
  constructor
  · rintro ⟨name, hname, hnames⟩
    obtain ⟨rest, -, hfound⟩ := ((h name hname).mem_iff names).mp hnames
    exact hfound
  · intro hfound
    obtain ⟨name, rest, rfl⟩ := List.exists_cons_of_ne_nil hfound.ne_nil
    obtain ⟨entry, hpair, -⟩ := Entry.exists_mem_of_isSome hfound.there
    have hname : name ∈ entries.map Prod.fst := List.mem_map.mpr ⟨_, hpair, rfl⟩
    exact ⟨name, hname, ((h name hname).mem_iff _).mpr ⟨rest, rfl, hfound⟩⟩

include hsound

/-- What begins with one name differs from what begins with another. -/
theorem nodup_flatMap : ((entries.map Prod.fst).flatMap found).Nodup := by
  obtain ⟨hdifferent, -, -⟩ := Entry.sound_directory_iff.mp hsound
  refine List.nodup_flatMap.mpr ⟨fun name hname => (h name hname).nodup, ?_⟩
  refine hdifferent.imp_of_mem fun hname hname' hne names hnames hnames' => hne ?_
  obtain ⟨rest, hrest, -⟩ := ((h _ hname).mem_iff names).mp hnames
  obtain ⟨rest', hrest', -⟩ := ((h _ hname').mem_iff names).mp hnames'
  exact (List.cons.inj (hrest.symm.trans hrest')).1

/-- To put the paths in order is to put in order the names that lead there. -/
theorem inOrder_flatMap :
    Path.inOrder ((entries.map Prod.fst).flatMap fun name => (found name).map (Path.below path)) =
      (((entries.map Prod.fst).flatMap found).mergeSort Path.before).map (Path.below path) := by
  have hsteps : ∀ names ∈ (entries.map Prod.fst).flatMap found,
      Path.steps (Path.below path names) = Path.steps path ++ names := fun names hnames =>
    Path.steps_below (((mem_flatMap_iff h names).mp hnames).isName hsound)
  rw [Path.inOrder, ← List.map_flatMap]
  refine (List.map_mergeSort fun names hnames names' hnames' => ?_).symm
  rw [hsteps names hnames, hsteps names' hnames', Path.before_append]

/-- What the entries of a directory give, one after the other and put in order, is what is to be
found in the directory. -/
theorem collects_of_entries (hplace : machine.disk.resolve path = .ok place)
    (hentries : machine.disk.root.at? place = some (.directory entries)) :
    machine.Collects (levels + 1) path (.directory entries)
      (((entries.map Prod.fst).flatMap found).mergeSort Path.before) where
  run := by
    rw [← inOrder_flatMap hsound h]
    exact gives_filesWithin_succ hplace hentries fun name hname => (h name hname).run
  mem_iff names := List.mem_mergeSort.trans (mem_flatMap_iff h names)
  ordered := Path.pairwise_mergeSort_of_nodup (nodup_flatMap hsound h)

end

/-- One step of the walk: what an entry gives, if what its own directory gives is known. -/
theorem exists_collectsAt (hsound : machine.disk.root.Sound)
    (hplace : machine.disk.resolve path = .ok place)
    (hentries : machine.disk.root.at? place = some (.directory entries))
    (hname : IsName name) (hentry : entries.lookup name = some entry)
    (hbelow : ∀ others, machine.disk.resolve (Path.join path name) = .ok (place ++ [name]) →
      machine.disk.root.at? (place ++ [name]) = some (.directory others) →
        ∃ found, machine.Collects levels (Path.join path name) (.directory others) found) :
    ∃ found, machine.CollectsAt levels path (.directory entries) name found := by
  by_cases hshows : (Entry.directory entries).Shows path [name]
  · obtain ⟨-, hshown⟩ := (Entry.shows_cons hentry).mp hshows
    obtain ⟨others, rfl⟩ := hshown.there.exists_entries
    have hthere : machine.disk.root.at? (place ++ [name]) = some (.directory others) := by
      rw [Entry.at?_append, hentries, Option.bind_some, Entry.at?, hentry]
      rfl
    obtain ⟨found, hfound⟩ :=
      hbelow others (resolve_join_of_shows hplace hentries hname hshows) hthere
    exact ⟨_, hfound.collectsAt hplace hentries hname hentry hshows⟩
  · exact ⟨_, collectsAt_of_hidden hplace hentries (hsound.at? hentries) hname hentry hshows⟩

/-- There are enough levels if they get beyond the longest path. -/
theorem exists_collects (hsound : machine.disk.root.Sound) :
    ∀ {levels : Nat} {path : String} {place : List String} {entries : List (String × Entry)},
      machine.disk.resolve path = .ok place →
        machine.disk.root.at? place = some (.directory entries) →
          Disk.maxPath < utf8Length path.toList + levels →
            ∃ found, machine.Collects levels path (.directory entries) found := by
  intro levels
  induction levels with
  | zero =>
      intro path place entries hplace _ hlevels
      have hlength := (Disk.fits_nil_of_resolve hplace).length_le
      exact absurd hlength (Nat.not_le.mpr hlevels)
  | succ levels ih =>
      intro path place entries hplace hentries hlevels
      have hbelow := hsound.at? hentries
      obtain ⟨hdifferent, hnames, -⟩ := Entry.sound_directory_iff.mp hbelow
      have hat : ∀ name ∈ entries.map Prod.fst, ∃ found,
          machine.CollectsAt levels path (.directory entries) name found := by
        intro name hmem
        have hname := hnames name hmem
        obtain ⟨entry, hpair⟩ : ∃ entry, (name, entry) ∈ entries := by simpa using hmem
        have hentry := (Entry.lookup_eq_some_iff hdifferent).mpr hpair
        refine exists_collectsAt hsound hplace hentries hname hentry fun others hjoin hthere => ?_
        -- The path of the entry is longer, which makes up for the level.
        have hlonger := Path.utf8Length_add_le_join path hname
        have hsome := utf8Length_pos (mt String.toList_eq_nil_iff.mp hname.ne_empty)
        exact ih hjoin hthere (by omega)
      choose! found hfound using hat
      exact ⟨_, collects_of_entries hbelow hfound hplace hentries⟩

/-- Nothing else can be collected, whatever the levels are. -/
theorem Collects.unique {root : Entry} {levels' : Nat} {found found' : List (List String)}
    (h : machine.Collects levels path root found)
    (h' : machine.Collects levels' path root found') : found' = found :=
  h'.ordered.eq_of_mem_iff h.ordered fun names =>
    (h'.mem_iff names).trans (h.mem_iff names).symm

/-- As many levels as a path can have bytes are enough for every directory, and more make no
difference. -/
theorem exists_collects_forall (hsound : machine.disk.root.Sound)
    (hplace : machine.disk.resolve path = .ok place)
    (hentries : machine.disk.root.at? place = some (.directory entries)) :
    ∃ found, ∀ levels ≥ Disk.maxPath, machine.Collects levels path (.directory entries) found := by
  have hlength : 0 < utf8Length path.toList :=
    utf8Length_pos (mt String.toList_eq_nil_iff.mp (Disk.ne_empty_of_resolve hplace))
  have henough : ∀ levels ≥ Disk.maxPath, ∃ found,
      machine.Collects levels path (.directory entries) found := fun levels hlevels =>
    exists_collects hsound hplace hentries (by omega)
  obtain ⟨found, hfound⟩ := henough Disk.maxPath (Nat.le_refl _)
  refine ⟨found, fun levels hlevels => ?_⟩
  obtain ⟨found', hfound'⟩ := henough levels hlevels
  exact hfound.unique hfound' ▸ hfound'

end Machine

end Gapfill
