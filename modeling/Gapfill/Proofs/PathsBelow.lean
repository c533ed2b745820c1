import Mathlib.Data.List.Induction
import Gapfill.Proofs.QuestionFiles
import Gapfill.Proofs.Text.Split

/-!
# Paths below a directory

A path below a directory is that of the directory with names put behind it. Its
steps are those of the directory and the names (`Path.steps_below`), so that paths
below one directory have the order of the names that lead there.

With every name the path grows, while a system takes paths and names of some length
only. If it takes the path (`Path.Fits`), the path leads just where the names lead
from the directory, whatever else is on the disk, and if not, nowhere
(`Disk.resolve_below_eq_ok_iff`).
-/

namespace Gapfill

open Entry (IsName)

/-! ## Paths below a directory -/

namespace Path

/-- The path that leads on from a directory by names. -/
def below (directory : String) (names : List String) : String := names.foldl join directory

variable {base name directory : String} {names : List String}

@[simp] theorem below_nil : below directory [] = directory := rfl

theorem below_cons : below directory (name :: names) = below (join directory name) names := rfl

theorem below_singleton : below directory [name] = join directory name := rfl

theorem below_concat :
    below directory (names ++ [name]) = join (below directory names) name := List.foldl_concat ..

theorem isAbsolute_of_isName (h : IsName name) : isAbsolute name = false := by
  unfold isAbsolute
  rw [beq_eq_false_iff_ne]
  exact fun heq => h.no_slash (List.mem_of_mem_head? heq)

/-- A name is put behind exactly one slash. -/
theorem join_eq (hbase : base ≠ "") (hname : IsName name) : ∃ front,
    (join base name).toList = front ++ '/' :: name.toList
      ∧ (base.toList = front ∨ base.toList = front ++ ['/']) := by
  have hrelative := isAbsolute_of_isName hname
  unfold join
  rw [hrelative]
  by_cases hlast : base.toList.getLast? = some '/'
  · obtain ⟨front, hfront⟩ := List.getLast?_eq_some_iff.mp hlast
    refine ⟨front, ?_, .inr hfront⟩
    simp [hfront]
  · refine ⟨base.toList, ?_, .inl rfl⟩
    have hne : base.isEmpty = false := by simpa using hbase
    simp [hlast, hne]

/-- Behind no path at all a name stands for itself. -/
theorem join_empty (hname : IsName name) : join "" name = name := by
  unfold join
  rw [isAbsolute_of_isName hname]
  exact String.empty_append

theorem join_ne_empty (hname : IsName name) : join base name ≠ "" := by
  by_cases hbase : base = ""
  · rw [hbase, join_empty hname]
    exact hname.ne_empty
  · obtain ⟨front, hjoin, -⟩ := join_eq hbase hname
    rintro heq
    rw [heq] at hjoin
    simp at hjoin

/-- A path that ends in a name does not end in a slash. -/
theorem getLast?_join (hname : IsName name) : (join base name).toList.getLast? ≠ some '/' := by
  have hlast : name.toList.getLast? ≠ some '/' :=
    fun heq => hname.no_slash (List.mem_of_mem_getLast? heq)
  by_cases hbase : base = ""
  · rwa [hbase, join_empty hname]
  · obtain ⟨front, hjoin, -⟩ := join_eq hbase hname
    obtain ⟨d, rest, hd⟩ :=
      List.exists_cons_of_ne_nil (mt String.toList_eq_nil_iff.mp hname.ne_empty)
    rwa [hjoin, List.getLast?_append_cons, hd, List.getLast?_cons_cons, ← hd]

theorem isAbsolute_join (hname : IsName name) :
    isAbsolute (join base name) = isAbsolute base := by
  by_cases hbase : base = ""
  · rw [hbase, join_empty hname, isAbsolute_of_isName hname]
    rfl
  · obtain ⟨front, hjoin, hfront⟩ := join_eq hbase hname
    unfold isAbsolute
    rw [hjoin]
    cases front with
    | nil =>
        have hne : base.toList ≠ [] := mt String.toList_eq_nil_iff.mp hbase
        rw [hfront.resolve_left hne]
        rfl
    | cons c front => rcases hfront with hfront | hfront <;> rw [hfront] <;> rfl

theorem pieces_of_isName (hname : IsName name) : pieces name = [name] := by
  have hne : name.toList ≠ [] := by simpa using hname.ne_empty
  unfold pieces splitAt
  simp [splitFrom_of_notMem hname.no_slash, hne]

theorem pieces_append_slash (front behind : List Char) :
    pieces (String.ofList (front ++ '/' :: behind)) =
      pieces (String.ofList front) ++ pieces (String.ofList behind) := by
  unfold pieces splitAt
  simp [splitFrom_append_cons]

/-- More slashes at the end of a path make no difference. -/
theorem pieces_append_slashes (front : List Char) (n : Nat) :
    pieces (String.ofList (front ++ List.replicate n '/')) = pieces (String.ofList front) := by
  induction n with
  | zero => rw [List.replicate_zero, List.append_nil]
  | succ n ih =>
      rw [List.replicate_succ', ← List.append_assoc, pieces_append_slash, ih]
      exact List.append_nil _

theorem pieces_join (hname : IsName name) : pieces (join base name) = pieces base ++ [name] := by
  by_cases hbase : base = ""
  · rw [hbase, join_empty hname, pieces_of_isName hname]
    rfl
  · obtain ⟨front, hjoin, hfront⟩ := join_eq hbase hname
    have hpieces : pieces base = pieces (String.ofList front) := by
      rcases hfront with hfront | hfront
      · rw [← hfront, String.ofList_toList]
      · rw [← pieces_append_slashes front 1, List.replicate_one, ← hfront, String.ofList_toList]
    rw [hpieces, ← String.ofList_toList (s := join base name), hjoin, pieces_append_slash,
      String.ofList_toList, pieces_of_isName hname]

theorem below_ne_empty (hdirectory : directory ≠ "") (hnames : ∀ name ∈ names, IsName name) :
    below directory names ≠ "" := by
  induction names generalizing directory with
  | nil => exact hdirectory
  | cons name names ih =>
      obtain ⟨hname, hrest⟩ := List.forall_mem_cons.mp hnames
      exact ih (join_ne_empty hname) hrest

theorem isAbsolute_below (hnames : ∀ name ∈ names, IsName name) :
    isAbsolute (below directory names) = isAbsolute directory := by
  induction names generalizing directory with
  | nil => rfl
  | cons name names ih =>
      obtain ⟨hname, hrest⟩ := List.forall_mem_cons.mp hnames
      rw [below_cons, ih hrest, isAbsolute_join hname]

theorem pieces_below (hnames : ∀ name ∈ names, IsName name) :
    pieces (below directory names) = pieces directory ++ names := by
  induction names generalizing directory with
  | nil => exact (List.append_nil _).symm
  | cons name names ih =>
      obtain ⟨hname, hrest⟩ := List.forall_mem_cons.mp hnames
      rw [below_cons, ih hrest, pieces_join hname, List.append_assoc, List.singleton_append]

/-- A path that ends in a name leads through the pieces of it. -/
theorem names_below (hnames : ∀ name ∈ names, IsName name) (hne : names ≠ []) :
    Path.names (below directory names) = pieces directory ++ names := by
  obtain ⟨above, name, rfl⟩ := (List.eq_nil_or_concat' names).resolve_left hne
  obtain ⟨-, hname⟩ := List.forall_mem_append.mp hnames
  have hlast : (below directory (above ++ [name])).toList.getLast? ≠ some '/' := by
    rw [below_concat]
    exact getLast?_join (List.forall_mem_singleton.mp hname)
  rw [Path.names, if_neg (by simpa using hlast), pieces_below hnames]

theorem steps_below (hnames : ∀ name ∈ names, IsName name) :
    steps (below directory names) = steps directory ++ names := by
  have hkept : names.filter (· != ".") = names :=
    List.filter_eq_self.mpr fun name hname => bne_iff_ne.mpr (hnames name hname).ne_dot
  unfold steps
  rw [pieces_below hnames, isAbsolute_below hnames]
  cases pieces directory with
  | nil =>
      cases names with
      | nil => rfl
      | cons name names =>
          have hdot : name ≠ "." := (hnames name List.mem_cons_self).ne_dot
          simpa [hdot] using hkept
  | cons first rest =>
      rw [List.cons_append]
      dsimp only
      rw [List.filter_append, hkept]
      split <;> rfl

/-- Paths below one directory are in the order of the names that lead there. -/
theorem steps_below_lt_iff {names names' : List String} (hnames : ∀ name ∈ names, IsName name)
    (hnames' : ∀ name ∈ names', IsName name) :
    steps (below directory names) < steps (below directory names') ↔ names < names' := by
  rw [steps_below hnames, steps_below hnames']
  refine ⟨fun h => ?_, fun h => List.Lex.append_left _ h _⟩
  rcases lt_trichotomy names names' with hlt | rfl | hgt
  · exact hlt
  · exact absurd h (lt_irrefl _)
  · exact absurd h (lt_asymm (List.Lex.append_left _ hgt _))

/-! ## Paths that a system takes -/

theorem prefix_join (base : String) (hname : IsName name) :
    base.toList <+: (join base name).toList := by
  unfold join
  rw [isAbsolute_of_isName hname, if_neg Bool.false_ne_true]
  split
  · exact ⟨name.toList, String.toList_append.symm⟩
  · exact ⟨'/' :: name.toList, by simp⟩

/-- A path is at least as long as what it is joined from. -/
theorem utf8Length_add_le_join (base : String) (hname : IsName name) :
    utf8Length base.toList + utf8Length name.toList ≤ utf8Length (join base name).toList := by
  by_cases hbase : base = ""
  · rw [hbase, join_empty hname]
    exact Nat.le_of_eq (Nat.zero_add _)
  · obtain ⟨front, hjoin, hfront⟩ := join_eq hbase hname
    have hslash : utf8Length ['/'] = 1 := rfl
    rw [hjoin, ← List.singleton_append, ← List.append_assoc, utf8Length_append]
    rcases hfront with hfront | hfront <;> simp [hfront, hslash]

theorem prefix_below (hnames : ∀ name ∈ names, IsName name) :
    directory.toList <+: (below directory names).toList := by
  induction names generalizing directory with
  | nil => exact List.prefix_refl _
  | cons name names ih =>
      obtain ⟨hname, hrest⟩ := List.forall_mem_cons.mp hnames
      exact (prefix_join directory hname).trans (ih hrest)

/-- The path below a directory is one that a system takes: neither the path nor a name in it is too
long, and it has no NUL in it. -/
structure Fits (directory : String) (names : List String) : Prop where
  no_zero : '\x00' ∉ (below directory names).toList
  length_le : utf8Length (below directory names).toList ≤ Disk.maxPath
  names_le : ∀ name ∈ names, utf8Length name.toList ≤ Disk.maxName

theorem fits_cons : Fits directory (name :: names) ↔
    utf8Length name.toList ≤ Disk.maxName ∧ Fits (join directory name) names := by
  constructor
  · rintro ⟨hzero, hlength, hnames⟩
    obtain ⟨hname, hrest⟩ := List.forall_mem_cons.mp hnames
    exact ⟨hname, hzero, hlength, hrest⟩
  · rintro ⟨hname, hzero, hlength, hrest⟩
    exact ⟨hzero, hlength, List.forall_mem_cons.mpr ⟨hname, hrest⟩⟩

/-- If a path is taken, so is what it begins with. -/
theorem Fits.of_append {more : List String} (h : Fits directory (names ++ more))
    (hmore : ∀ name ∈ more, IsName name) : Fits directory names := by
  have hstart : (below directory names).toList <+: (below directory (names ++ more)).toList := by
    rw [show below directory (names ++ more) = below (below directory names) more from
      List.foldl_append ..]
    exact prefix_below hmore
  refine ⟨fun hzero => h.no_zero (hstart.subset hzero), ?_, fun name hname =>
    h.names_le name (List.mem_append_left _ hname)⟩
  obtain ⟨rest, hrest⟩ := hstart
  have hlength := hrest ▸ h.length_le
  exact Nat.le_trans (utf8Length_le_append _ _) hlength

end Path

/-! ## What a path below a directory leads to -/

namespace Disk

open Entry

variable {disk disk' : Disk} {root : Entry} {directory : String} {place names changed : List String}

theorem follow_append (root : Entry) (above below : List String) : ∀ place : List String,
    follow root place (above ++ below) =
      (follow root place above).bind fun found => follow root found below := by
  induction above with
  | nil => exact fun place => rfl
  | cons name above ih =>
      intro place
      rw [List.cons_append, follow, follow]
      split
      · rfl
      · rfl
      · split
        · exact ih _
        · split
          · exact ih _
          · split
            · rfl
            · exact ih _

theorem follow_append_eq_ok_iff {above below found : List String} :
    follow root place (above ++ below) = .ok found ↔
      ∃ next, follow root place above = .ok next ∧ follow root next below = .ok found := by
  rw [follow_append]
  cases follow root place above with
  | error fault => simp [Except.bind]
  | ok next => simp [Except.bind]

/-- What leads on from a directory to its end has directories on the way. -/
theorem hasDirectory_of_append {above below : List String}
    (h : root.HasDirectory (above ++ below)) : root.HasDirectory above := by
  induction below using List.reverseRecOn with
  | nil => simpa using h
  | append_singleton below name ih =>
      rw [← List.append_assoc] at h
      have hdrop := h.dropLast
      rw [List.dropLast_concat] at hdrop
      exact ih hdrop

/-- Where names lead from a directory through directories: just there, unless one is too long. -/
def reached (place names : List String) : Except DiskFault (List String) :=
  if names.any fun name => maxName < utf8Length name.toList then .error .nameTooLong
  else .ok (place ++ names)

theorem reached_eq_ok_iff {found : List String} : reached place names = .ok found ↔
    (∀ name ∈ names, utf8Length name.toList ≤ maxName) ∧ found = place ++ names := by
  unfold reached
  split
  · rename_i hlong
    obtain ⟨name, hname, hlength⟩ := List.any_eq_true.mp hlong
    refine iff_of_false (fun h => nomatch h) fun ⟨hnames, _⟩ => ?_
    exact absurd (hnames name hname) (Nat.not_le.mpr (of_decide_eq_true hlength))
  · rename_i hshort
    have hnames : ∀ name ∈ names, utf8Length name.toList ≤ maxName := by simpa using hshort
    rw [Except.ok.injEq, eq_comm]
    exact (and_iff_right hnames).symm

theorem follow_eq_reached (hnames : ∀ name ∈ names, IsName name) : ∀ {place : List String},
    root.HasDirectory (place ++ names.dropLast) →
      follow root place names = reached place names := by
  induction names with
  | nil =>
      intro place _
      simp [follow, reached]
  | cons name names ih =>
      intro place h
      obtain ⟨hname, hrest⟩ := List.forall_mem_cons.mp hnames
      obtain ⟨entries, hplace⟩ := hasDirectory_of_append h
      rw [follow, hplace]
      have hdot : (name == ".") = false := beq_eq_false_iff_ne.mpr hname.ne_dot
      have hdots : (name == "..") = false := beq_eq_false_iff_ne.mpr hname.ne_dots
      simp only [hdot, hdots, Bool.false_eq_true, if_false]
      by_cases hlong : maxName < utf8Length name.toList
      · simp [reached, hlong]
      · have hnext : reached place (name :: names) = reached (place ++ [name]) names := by
          simp [reached, hlong]
        rw [if_neg hlong, hnext]
        cases names with
        | nil => simp [follow, reached]
        | cons next rest =>
            rw [List.dropLast_cons_of_ne_nil (List.cons_ne_nil _ _), ← List.singleton_append,
              ← List.append_assoc] at h
            exact ih hrest h

theorem ne_empty_of_resolve (h : disk.resolve directory = .ok place) : directory ≠ "" := by
  rintro rfl
  cases h

theorem follow_dot (h : root.HasDirectory place) : follow root place ["."] = .ok place := by
  obtain ⟨entries, hentries⟩ := h
  rw [follow, hentries]
  rfl

/-- The slash at the end of a path makes no difference to where it leads. -/
theorem follow_pieces {absolute : Bool}
    (h : disk.locate absolute (Path.names directory) = .ok place) :
    disk.locate absolute (Path.pieces directory) = .ok place := by
  unfold Path.names at h
  split at h
  · obtain ⟨found, hfound, hdot⟩ := follow_append_eq_ok_iff.mp h
    rw [follow_dot (follow_cons hdot)] at hdot
    obtain rfl := Except.ok.inj hdot
    exact hfound
  · exact h

/-- What a path below a directory leads to depends on the path, and on where the directory is. -/
theorem resolve_below (hplace : disk.resolve directory = .ok place)
    (hnames : ∀ name ∈ names, IsName name) (hne : names ≠ [])
    (hdirectories : disk.root.HasDirectory (place ++ names.dropLast)) :
    disk.resolve (Path.below directory names) =
      if (Path.below directory names).toList.contains '\x00' then .error .badName
      else if maxPath < utf8Length (Path.below directory names).toList then .error .nameTooLong
      else reached place names := by
  have hdirectory := ne_empty_of_resolve hplace
  have hempty : (Path.below directory names).isEmpty = false := by
    simpa using Path.below_ne_empty hdirectory hnames
  have hfollow : disk.locate (Path.isAbsolute directory) (Path.pieces directory ++ names) =
      reached place names := by
    have hpieces := follow_pieces (locate_of_resolve hplace).2
    unfold locate at hpieces ⊢
    rw [follow_append, hpieces]
    exact follow_eq_reached hnames hdirectories
  unfold resolve
  rw [hempty, Path.isAbsolute_below hnames, Path.names_below hnames hne,
    hfollow]
  rfl

/-- If the path is taken, it leads where the names lead from the directory, and else nowhere. -/
theorem resolve_below_eq_ok_iff (hplace : disk.resolve directory = .ok place)
    (hnames : ∀ name ∈ names, IsName name) (hne : names ≠ [])
    (hdirectories : disk.root.HasDirectory (place ++ names.dropLast)) {found : List String} :
    disk.resolve (Path.below directory names) = .ok found ↔
      Path.Fits directory names ∧ found = place ++ names := by
  rw [resolve_below hplace hnames hne hdirectories]
  split
  · rename_i hzero
    refine iff_of_false (fun h => nomatch h) fun ⟨hfits, _⟩ => hfits.no_zero ?_
    simpa using hzero
  · rename_i hzero
    split
    · rename_i hlong
      exact iff_of_false (fun h => nomatch h) fun ⟨hfits, _⟩ => Nat.not_le.mpr hlong hfits.length_le
    · rename_i hshort
      rw [reached_eq_ok_iff]
      refine and_congr_left fun _ => ⟨fun hle => ⟨?_, Nat.not_lt.mp hshort, hle⟩, (·.names_le)⟩
      simpa using hzero

theorem fits_nil_of_resolve (h : disk.resolve directory = .ok place) :
    Path.Fits directory [] := by
  unfold resolve at h
  split at h
  · cases h
  · rename_i hzero
    split at h
    · cases h
    · split at h
      · cases h
      · rename_i hshort
        exact ⟨by simpa using hzero, Nat.not_lt.mp hshort, by simp⟩

theorem isDirectory_iff {path : String} : disk.isDirectory path = true ↔
    ∃ place, disk.resolve path = .ok place ∧ disk.root.HasDirectory place := by
  unfold isDirectory entry HasDirectory
  cases hresolve : disk.resolve path with
  | error fault => simp
  | ok place =>
      dsimp only
      cases hthere : disk.root.at? place with
      | none => simp [hthere]
      | some entry => cases entry <;> simp [hthere]

/-- A directory shows as one if its path is taken. -/
theorem isDirectory_below_iff (hplace : disk.resolve directory = .ok place)
    (hnames : ∀ name ∈ names, IsName name) (hne : names ≠ [])
    (hdirectories : disk.root.HasDirectory (place ++ names.dropLast)) :
    disk.isDirectory (Path.below directory names) = true ↔
      disk.root.HasDirectory (place ++ names) ∧ Path.Fits directory names := by
  simp only [isDirectory_iff, resolve_below_eq_ok_iff hplace hnames hne hdirectories]
  constructor
  · rintro ⟨found, ⟨hfits, rfl⟩, hthere⟩
    exact ⟨hthere, hfits⟩
  · rintro ⟨hthere, hfits⟩
    exact ⟨_, ⟨hfits, rfl⟩, hthere⟩

end Disk

end Gapfill
