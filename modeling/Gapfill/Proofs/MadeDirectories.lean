import Gapfill.Proofs.Files

/-!
# What making directories changes

What is done to a disk is told by where something may come about
(`Disk.ChangedOnly`): at all other places there is what there was, and nothing is
lost. Such changes compose (`Disk.ChangedOnly.trans`).

Making the directories that lead to a place is a run of such changes. Each makes one
directory, in one that is there, at a place to which the names lead, or a part of
them from the first one on (`Disk.OnWay`). Directories stay, and so a place on the
way is still on it when more have been made; by induction from the last name to the
first, nothing is made but on the way (`Disk.ensureDirectories_makesWay`), also if this
fails halfway.
-/

namespace Gapfill.Disk

open Entry

variable {disk disk' disk'' : Disk} {absolute : Bool} {names place : List String}

/-! ## Changes -/

/-- Nothing is lost from one disk to the next. New directories are at some of the places `made`, and
files that are new or have another text at some of the places `written`. -/
structure ChangedOnly (made written : List String → Prop) (disk disk' : Disk) : Prop where
  here : disk'.here = disk.here
  kept : ∀ place, disk.root.HasDirectory place → disk'.root.HasDirectory place
  directories : ∀ place, disk'.root.HasDirectory place → disk.root.HasDirectory place ∨ made place
  files : ∀ place, ¬ written place → ∀ content,
    disk'.root.at? place = some (.file content) ↔ disk.root.at? place = some (.file content)

namespace ChangedOnly

variable {made made' written written' : List String → Prop}

theorem refl (disk : Disk) : disk.ChangedOnly made written disk where
  here := rfl
  kept _ h := h
  directories _ := .inl
  files _ _ _ := .rfl

theorem trans (h : disk.ChangedOnly made written disk')
    (h' : disk'.ChangedOnly made written disk'') : disk.ChangedOnly made written disk'' where
  here := h'.here.trans h.here
  kept place hplace := h'.kept place (h.kept place hplace)
  directories place hplace := (h'.directories place hplace).elim (h.directories place) .inr
  files place hplace content := (h'.files place hplace content).trans (h.files place hplace content)

theorem mono (h : disk.ChangedOnly made written disk') (hmade : ∀ place, made place → made' place)
    (hwritten : ∀ place, written place → written' place) :
    disk.ChangedOnly made' written' disk' where
  here := h.here
  kept := h.kept
  directories place hplace := (h.directories place hplace).imp_right (hmade place)
  files place hplace := h.files place (mt (hwritten place) hplace)

/-- What names have led to, they still lead to. -/
theorem locate_eq (h : disk.ChangedOnly made written disk')
    (hplace : disk.locate absolute names = .ok place) :
    disk'.locate absolute names = .ok place := by
  unfold locate at hplace ⊢
  rw [h.here]
  exact follow_of_directories h.kept hplace

end ChangedOnly

/-! ## Places on the way -/

/-- The names lead to the place, or a part of them from the first one on does. -/
def OnWay (disk : Disk) (absolute : Bool) (names place : List String) : Prop :=
  ∃ front, front <+: names ∧ disk.locate absolute front = .ok place

theorem OnWay.append (h : disk.OnWay absolute names place) (more : List String) :
    disk.OnWay absolute (names ++ more) place := by
  obtain ⟨front, hfront, hplace⟩ := h
  exact ⟨front, hfront.trans (List.prefix_append names more), hplace⟩

theorem OnWay.changed {made written : List String → Prop} (h : disk.OnWay absolute names place)
    (hchanged : disk.ChangedOnly made written disk') : disk'.OnWay absolute names place := by
  obtain ⟨front, hfront, hplace⟩ := h
  exact ⟨front, hfront, hchanged.locate_eq hplace⟩

/-- Nothing has come about but directories on the way. -/
def MakesWay (absolute : Bool) (names : List String) (disk disk' : Disk) : Prop :=
  disk.ChangedOnly (disk'.OnWay absolute names) (fun _ => False) disk'

theorem MakesWay.append (h : disk.MakesWay absolute names disk') (more : List String) :
    disk.MakesWay absolute (names ++ more) disk' :=
  h.mono (fun _ hplace => hplace.append more) fun _ => id

theorem MakesWay.trans (h : disk.MakesWay absolute names disk')
    (h' : disk'.MakesWay absolute names disk'') : disk.MakesWay absolute names disk'' :=
  (h.mono (fun _ hplace => hplace.changed h') fun _ => id).trans h'

/-! ## Making directories -/

theorem makeDirectory_makesWay (hnames : names ≠ [])
    (h : disk.makeDirectory absolute names = .ok disk') : disk.MakesWay absolute names disk' := by
  unfold makeDirectory at h
  split at h
  · cases h
  · rename_i place hplace
    split at h
    · cases h
    · rename_i hnone
      obtain rfl := Except.ok.inj h
      have habove := locate_inDirectory hnames hplace
      have hnot : ¬ disk.root.HasDirectory place := by
        rintro ⟨entries, hentries⟩
        rw [hnone] at hentries
        cases hentries
      have hself := insert_at?_self (.directory []) habove
      have halike := fun other (hne : other ≠ place) => insert_alike bare_directory habove hnot hne
      have hkept : ∀ other, disk.root.HasDirectory other →
          (insert (.directory []) place disk.root).HasDirectory other := by
        intro other hother
        have hne : other ≠ place := fun heq => hnot (heq ▸ hother)
        exact (hasDirectory_iff_of_alike (halike other hne)).mpr hother
      refine ⟨rfl, hkept, fun other hother => ?_, fun other _ content => ?_⟩
      · by_cases heq : other = place
        · subst heq
          exact .inr ⟨names, List.prefix_rfl, follow_of_directories hkept hplace⟩
        · exact .inl ((hasDirectory_iff_of_alike (halike other heq)).mp hother)
      · by_cases heq : other = place
        · subst heq
          rw [hself, hnone]
          simp
        · exact at?_eq_file_iff_of_alike (halike other heq) content

theorem ensureDirectory_makesWay (hnames : names ≠ [])
    (h : disk.ensureDirectory absolute names = .ok disk') : disk.MakesWay absolute names disk' := by
  unfold ensureDirectory at h
  split at h
  · rename_i hmade
    obtain rfl := Except.ok.inj h
    exact makeDirectory_makesWay hnames hmade
  · split at h
    · obtain rfl := Except.ok.inj h
      exact .refl disk
    · cases h

/-- The names are given from the last to the first, as they are to the function. -/
theorem ensureDirectories_makesWay (absolute : Bool) : ∀ (backwards : List String) (disk : Disk),
    disk.MakesWay absolute backwards.reverse (disk.ensureDirectories absolute backwards).2
  | [], disk => .refl disk
  | last :: above, disk => by
      have hlast : ∀ {disk disk' : Disk},
          disk.ensureDirectory absolute (above.reverse ++ [last]) = .ok disk' →
            disk.MakesWay absolute (above.reverse ++ [last]) disk' :=
        ensureDirectory_makesWay (List.append_ne_nil_of_right_ne_nil _ (List.cons_ne_nil _ _))
      have habove := (ensureDirectories_makesWay absolute above disk).append [last]
      rw [ensureDirectories, List.reverse_cons]
      split
      · rename_i hmade
        exact hlast hmade
      · split
        · rename_i hfault
          rwa [hfault] at habove
        · rename_i hdone
          rw [hdone] at habove
          split
          · rename_i hmade
            exact habove.trans (hlast hmade)
          · exact habove
      · exact .refl disk

theorem ensureAbove_makesWay (disk : Disk) (path : String) :
    disk.MakesWay (Path.isAbsolute path) (Path.steps path).dropLast (disk.ensureAbove path).2 := by
  unfold ensureAbove
  dsimp only
  split
  · exact .refl disk
  · split
    · exact .refl disk
    · have h := ensureDirectories_makesWay (Path.isAbsolute path)
        (Path.steps path).dropLast.reverse disk
      rwa [List.reverse_reverse] at h

end Gapfill.Disk
