import Gapfill.Disk.Tree

/-!
# Files are read as they were written

A text that is written to a path is read there (`Disk.read_write`). Writing
changes the tree only where no directory is: all directories stay, and so does
every other file (`Entry.insert_alike`). A path goes through directories only, so
it leads to the same place as before (`Disk.resolve_of_directories`). This place is
in a directory, so the file comes about there (`Entry.insert_at?_self`).
-/

namespace Gapfill

namespace Entry

/-- There is a directory at a place. -/
def HasDirectory (root : Entry) (place : List String) : Prop :=
  ∃ entries, root.at? place = some (directory entries)

/-! ## Entries of a directory -/

theorem lookup_setIn_self (name : String) (new : Entry) (entries : List (String × Entry)) :
    (setIn name new entries).lookup name = some new := by
  induction entries with
  | nil => rw [setIn, List.lookup_cons, beq_self_eq_true]
  | cons entry entries ih =>
      obtain ⟨other, value⟩ := entry
      rw [setIn]
      split
      · rename_i heq
        rw [List.lookup_cons, beq_iff_eq.mp heq, beq_self_eq_true]
      · rename_i hne
        have hswap : (name == other) = false := by
          rw [beq_eq_false_iff_ne]
          exact fun heq => hne (beq_iff_eq.mpr heq.symm)
        rw [List.lookup_cons, hswap]
        exact ih

theorem lookup_setIn_ne {name other : String} (h : other ≠ name) (new : Entry)
    (entries : List (String × Entry)) :
    (setIn name new entries).lookup other = entries.lookup other := by
  have hne : (other == name) = false := beq_eq_false_iff_ne.mpr h
  induction entries with
  | nil => rw [setIn, List.lookup_cons, hne]
  | cons entry entries ih =>
      obtain ⟨first, value⟩ := entry
      rw [setIn]
      split
      · rename_i heq
        rw [List.lookup_cons, List.lookup_cons, beq_iff_eq.mp heq, hne]
      · rw [List.lookup_cons, List.lookup_cons, ih]

/-! ## Places -/

theorem at?_append (above below : List String) (root : Entry) :
    root.at? (above ++ below) = (root.at? above).bind fun entry => entry.at? below := by
  induction above generalizing root with
  | nil => rfl
  | cons name above ih =>
      cases root with
      | file content => rfl
      | directory entries =>
          rw [List.cons_append, at?, at?]
          cases entries.lookup name with
          | none => rfl
          | some entry => exact ih entry

theorem HasDirectory.exists_entries {root : Entry} {place : List String}
    (h : root.HasDirectory place) : ∃ entries, root = directory entries := by
  obtain ⟨entries, hplace⟩ := h
  cases root with
  | directory entries => exact ⟨entries, rfl⟩
  | file content => cases place <;> cases hplace

theorem hasDirectory_cons {name : String} {place : List String} {entries : List (String × Entry)} :
    (directory entries).HasDirectory (name :: place)
      ↔ ∃ entry, entries.lookup name = some entry ∧ entry.HasDirectory place := by
  unfold HasDirectory
  rw [at?]
  cases entries.lookup name with
  | none => simp
  | some entry => simp

/-- What is above a directory is one. -/
theorem HasDirectory.dropLast {root : Entry} {place : List String} (h : root.HasDirectory place) :
    root.HasDirectory place.dropLast := by
  rcases List.eq_nil_or_concat place with rfl | ⟨above, name, rfl⟩
  · exact h
  · obtain ⟨entries, hplace⟩ := h
    rw [List.concat_eq_append] at hplace ⊢
    rw [at?_append] at hplace
    obtain ⟨entry, habove, hname⟩ := Option.bind_eq_some_iff.mp hplace
    obtain ⟨others, rfl⟩ := HasDirectory.exists_entries ⟨entries, hname⟩
    rw [List.dropLast_concat]
    exact ⟨others, habove⟩

/-! ## Insertion -/

/-- In a directory an entry comes about under its name. -/
theorem insert_at?_self (new : Entry) : ∀ {place : List String} {root : Entry},
    root.HasDirectory place.dropLast → (insert new place root).at? place = some new
  | [], root, _ => rfl
  | [name], root, h => by
      obtain ⟨entries, rfl⟩ := h.exists_entries
      rw [insert, at?, lookup_setIn_self]
      rfl
  | name :: next :: below, root, h => by
      obtain ⟨entries, rfl⟩ := h.exists_entries
      obtain ⟨entry, hentry, hbelow⟩ := hasDirectory_cons.mp h
      rw [insert, at?, lookup_setIn_self, hentry]
      exact insert_at?_self new hbelow

/-- Two files with the same in them, or two directories. -/
inductive Alike : Entry → Entry → Prop where
  | file (content : Content) : Alike (file content) (file content)
  | directory (entries entries' : List (String × Entry)) :
    Alike (directory entries) (directory entries')

theorem Alike.refl : ∀ entry : Entry, Alike entry entry
  | .file content => .file content
  | .directory entries => .directory entries entries

/-- There is nothing in an entry: it is a file, or a directory that is empty. -/
def Bare (entry : Entry) : Prop := ∀ name below, entry.at? (name :: below) = none

theorem bare_file (content : Content) : Bare (file content) := fun _ _ => rfl

theorem bare_directory : Bare (directory []) := fun _ _ => rfl

/-- Where a file or an empty directory is put in a directory, nothing else comes or goes, and no
other file changes. -/
theorem insert_alike {new : Entry} (hnew : Bare new) :
    ∀ {place other : List String} {root : Entry},
      root.HasDirectory place.dropLast → ¬ root.HasDirectory place → other ≠ place →
        Option.Rel Alike (root.at? other) ((insert new place root).at? other)
  | [], [], _, _, _, hne => absurd rfl hne
  | [], _ :: _, root, habove, hnot, _ => absurd habove hnot
  | name :: below, [], root, habove, _, _ => by
      obtain ⟨entries, rfl⟩ := habove.exists_entries
      exact .some (.directory _ _)
  | name :: below, first :: other, root, habove, hnot, hne => by
      obtain ⟨entries, rfl⟩ := habove.exists_entries
      rw [insert, at?, at?]
      by_cases hname : first = name
      · subst hname
        rw [lookup_setIn_self]
        cases below with
        | nil =>
            obtain ⟨next, rest, rfl⟩ := List.exists_cons_of_ne_nil
              (show other ≠ [] from fun hnil => hne (hnil ▸ rfl))
            have hnone : (entries.lookup first).bind (at? (next :: rest)) = none := by
              cases hentry : entries.lookup first with
              | none => rfl
              | some entry =>
                  cases entry with
                  | file content => rfl
                  | directory below =>
                      exact absurd (hasDirectory_cons.mpr ⟨_, hentry, below, rfl⟩) hnot
            have hempty : (some (insert new [] ((entries.lookup first).getD (directory [])))).bind
                (at? (next :: rest)) = none := hnew next rest
            rw [hnone, hempty]
            exact .none
        | cons next rest =>
            obtain ⟨entry, hentry, hbelow⟩ := hasDirectory_cons.mp habove
            rw [hentry]
            refine insert_alike hnew hbelow (fun hdirectory => hnot ?_) fun heq => hne ?_
            · exact hasDirectory_cons.mpr ⟨entry, hentry, hdirectory⟩
            · rw [heq]
      · rw [lookup_setIn_ne hname]
        cases (entries.lookup first).bind (at? other) with
        | none => exact .none
        | some entry => exact .some (.refl entry)

theorem hasDirectory_iff_of_alike {root root' : Entry} {place : List String}
    (h : Option.Rel Alike (root.at? place) (root'.at? place)) :
    root'.HasDirectory place ↔ root.HasDirectory place := by
  unfold HasDirectory
  generalize root.at? place = found, root'.at? place = found' at h
  cases h with
  | none => rfl
  | some halike => cases halike <;> simp

theorem at?_eq_file_iff_of_alike {root root' : Entry} {place : List String}
    (h : Option.Rel Alike (root.at? place) (root'.at? place)) (content : Content) :
    root'.at? place = some (file content) ↔ root.at? place = some (file content) := by
  generalize root.at? place = found, root'.at? place = found' at h ⊢
  cases h with
  | none => rfl
  | some halike => cases halike <;> simp

end Entry

namespace Disk

open Entry

/-! ## Following names -/

theorem follow_cons {root : Entry} {place : List String} {name : String} {names : List String}
    {found : List String} (h : follow root place (name :: names) = .ok found) :
    root.HasDirectory place := by
  rw [follow] at h
  split at h
  · cases h
  · cases h
  · exact ⟨_, ‹_›⟩

/-- Names lead to the same place where there are the same directories. -/
theorem follow_of_directories {root root' : Entry}
    (hkept : ∀ place, root.HasDirectory place → root'.HasDirectory place) :
    ∀ {names place found : List String}, follow root place names = .ok found →
      follow root' place names = .ok found := by
  intro names
  induction names with
  | nil => exact fun h => h
  | cons name names ih =>
      intro place found h
      obtain ⟨entries, hplace⟩ := follow_cons h
      obtain ⟨entries', hplace'⟩ := hkept place ⟨entries, hplace⟩
      rw [follow, hplace] at h
      rw [follow, hplace']
      dsimp only at h ⊢
      split
      · rename_i hdot
        rw [if_pos hdot] at h
        exact ih h
      · rename_i hdot
        rw [if_neg hdot] at h
        split
        · rename_i hdots
          rw [if_pos hdots] at h
          exact ih h
        · rename_i hdots
          rw [if_neg hdots] at h
          split
          · rename_i hlong
            rw [if_pos hlong] at h
            cases h
          · rename_i hlong
            rw [if_neg hlong] at h
            exact ih h

/-- The place that is reached is in a directory. -/
theorem follow_inDirectory {root : Entry} : ∀ {names place found : List String},
    root.HasDirectory place.dropLast → follow root place names = .ok found →
      root.HasDirectory found.dropLast := by
  intro names
  induction names with
  | nil =>
      rintro place found hplace ⟨⟩
      exact hplace
  | cons name names ih =>
      intro place found hplace h
      have hdirectory := follow_cons h
      obtain ⟨entries, hentries⟩ := hdirectory
      rw [follow, hentries] at h
      dsimp only at h
      split at h
      · exact ih hplace h
      · split at h
        · exact ih hplace.dropLast h
        · split at h
          · cases h
          · refine ih ?_ h
            rw [List.dropLast_concat]
            exact ⟨entries, hentries⟩

/-! ## Paths -/

/-- What does not end in a slash has something behind the last one. -/
theorem exists_piece {s : List Char} (hlast : s.getLast? ≠ some '/') : ∀ current : List Char,
    s ≠ [] ∨ current ≠ [] → ∃ piece ∈ splitFrom ['/'] 0 current s, piece ≠ [] := by
  induction s with
  | nil =>
      rintro current (hs | hcurrent)
      · exact absurd rfl hs
      · exact ⟨current.reverse, List.mem_singleton.mpr rfl, by simpa using hcurrent⟩
  | cons c s ih =>
      intro current _
      have hrest : s.getLast? ≠ some '/' := by
        cases s with
        | nil => simp
        | cons d s => exact hlast
      rw [splitFrom]
      split
      · rename_i hslash
        have hne : s ≠ [] := by
          rintro rfl
          have hc : '/' = c := by simpa using hslash
          exact hlast (hc ▸ rfl)
        obtain ⟨piece, hpiece, hsome⟩ := ih hrest [] (Or.inl hne)
        exact ⟨piece, List.mem_cons_of_mem _ hpiece, hsome⟩
      · exact ih hrest _ (Or.inr (List.cons_ne_nil _ _))

theorem names_ne_nil {path : String} (h : path.isEmpty = false) : Path.names path ≠ [] := by
  rw [Path.names]
  split
  · exact List.append_ne_nil_of_right_ne_nil _ (List.cons_ne_nil _ _)
  · rename_i hlast
    have hne : path.toList ≠ [] := by
      intro hnil
      rw [String.toList_eq_nil_iff.mp hnil] at h
      cases h
    obtain ⟨piece, hpiece, hsome⟩ := exists_piece (by simpa using hlast) [] (Or.inl hne)
    have hmem : String.ofList piece ∈ Path.pieces path := by
      refine List.mem_map_of_mem (List.mem_filter.mpr ⟨hpiece, ?_⟩)
      simpa using hsome
    exact List.ne_nil_of_mem hmem

theorem resolve_of_directories {disk disk' : Disk} {path : String} {place : List String}
    (h : disk.resolve path = .ok place) (hhere : disk'.here = disk.here)
    (hkept : ∀ place, disk.root.HasDirectory place → disk'.root.HasDirectory place) :
    disk'.resolve path = .ok place := by
  unfold resolve locate at h ⊢
  rw [hhere]
  split at h
  · cases h
  · rename_i hname
    rw [if_neg hname]
    split at h
    · cases h
    · rename_i hsome
      rw [if_neg hsome]
      split at h
      · cases h
      · rename_i hlong
        rw [if_neg hlong]
        exact follow_of_directories hkept h

/-- What a path leads to is what its names lead to. -/
theorem locate_of_resolve {disk : Disk} {path : String} {place : List String}
    (h : disk.resolve path = .ok place) :
    path.isEmpty = false ∧ disk.locate (Path.isAbsolute path) (Path.names path) = .ok place := by
  unfold resolve at h
  split at h
  · cases h
  · split at h
    · cases h
    · rename_i hsome
      split at h
      · cases h
      · exact ⟨Bool.eq_false_iff.mpr hsome, h⟩

theorem locate_inDirectory {disk : Disk} {absolute : Bool} {names place : List String}
    (hnames : names ≠ []) (h : disk.locate absolute names = .ok place) :
    disk.root.HasDirectory place.dropLast := by
  obtain ⟨name, rest, rfl⟩ := List.exists_cons_of_ne_nil hnames
  exact follow_inDirectory (follow_cons h).dropLast h

theorem resolve_inDirectory {disk : Disk} {path : String} {place : List String}
    (h : disk.resolve path = .ok place) : disk.root.HasDirectory place.dropLast := by
  obtain ⟨hsome, hlocate⟩ := locate_of_resolve h
  exact locate_inDirectory (names_ne_nil hsome) hlocate

/-- A text that is written is read. -/
theorem read_write {disk disk' : Disk} {path content : String}
    (h : disk.write path content = .ok disk') : disk'.read path = .ok content := by
  unfold write at h
  split at h
  · cases h
  · rename_i place hplace
    split at h
    · cases h
    · rename_i hnone
      have hnot : ¬ disk.root.HasDirectory place :=
        fun ⟨entries, hentries⟩ => hnone entries hentries
      obtain rfl := Except.ok.inj h
      have habove := resolve_inDirectory hplace
      have hresolve : resolve ⟨Entry.insert (.file (.text content)) place disk.root, disk.here⟩
          path = .ok place := by
        refine resolve_of_directories hplace rfl fun kept hkept => ?_
        have hne : kept ≠ place := fun heq => hnot (heq ▸ hkept)
        have halike := insert_alike (bare_file content) habove hnot hne
        exact (hasDirectory_iff_of_alike halike).mpr hkept
      rw [read, entry, hresolve]
      dsimp only
      rw [insert_at?_self _ habove]

end Disk

end Gapfill
