import Mathlib.Data.List.Lex
import Mathlib.Data.List.Nodup
import Mathlib.Data.List.Sort
import Mathlib.Data.String.Basic
import Gapfill.Proofs.Files

/-!
# Trees with question files in them

A tree is sound if the names in each of its directories differ and are such as
files can have (`Entry.Sound`). What a place in it has is sound too, and so the names
that lead to something are such (`Entry.Sound.isName`).

Question files are put in the order of their names, one after the other, which is not
that of the characters of their paths: `x/z` comes before `x-a`. The order is total
(`Path.before_total`), and names in front that are the same make no difference to it
(`Path.before_append`).
-/

namespace Gapfill

namespace Entry

/-! ## Trees -/

/-- A name that a file or directory can have. -/
structure IsName (name : String) : Prop where
  ne_empty : name ≠ ""
  no_slash : '/' ∉ name.toList
  ne_dot : name ≠ "."
  ne_dots : name ≠ ".."

instance (name : String) : Decidable (IsName name) :=
  decidable_of_iff (name ≠ "" ∧ '/' ∉ name.toList ∧ name ≠ "." ∧ name ≠ "..")
    ⟨fun ⟨hempty, hslash, hdot, hdots⟩ => ⟨hempty, hslash, hdot, hdots⟩,
      fun ⟨hempty, hslash, hdot, hdots⟩ => ⟨hempty, hslash, hdot, hdots⟩⟩

/-- The names in every directory of the tree differ, and each is one that a file or directory can
have. -/
def Sound (root : Entry) : Prop :=
  ∀ place entries, root.at? place = some (directory entries) →
    (entries.map Prod.fst).Nodup ∧ ∀ name ∈ entries.map Prod.fst, IsName name

/-- There is a file at a place. -/
def HasFile (root : Entry) (place : List String) : Prop :=
  ∃ content, root.at? place = some (file content)

instance (root : Entry) (place : List String) : Decidable (HasFile root place) :=
  match h : root.at? place with
  | some (.file content) => .isTrue ⟨content, h⟩
  | some (.directory _) => .isFalse fun ⟨content, hfile⟩ => by
      rw [h] at hfile
      cases hfile
  | none => .isFalse fun ⟨content, hfile⟩ => by
      rw [h] at hfile
      cases hfile

/-- In a list with different names an entry is found under its name. -/
theorem lookup_eq_some_iff {entries : List (String × Entry)}
    (h : (entries.map Prod.fst).Nodup) {name : String} {entry : Entry} :
    entries.lookup name = some entry ↔ (name, entry) ∈ entries := by
  induction entries with
  | nil => simp
  | cons first entries ih =>
      obtain ⟨other, value⟩ := first
      obtain ⟨hnot, hrest⟩ := List.nodup_cons.mp h
      rw [List.lookup_cons, List.mem_cons, Prod.mk.injEq]
      by_cases hname : name = other
      · subst hname
        rw [beq_self_eq_true]
        have hnone : (name, entry) ∉ entries :=
          fun hmem => hnot (List.mem_map.mpr ⟨_, hmem, rfl⟩)
        simp [hnone, eq_comm]
      · rw [beq_eq_false_iff_ne.mpr hname]
        simp [hname, ih hrest]

theorem sound_file (content : Content) : (file content).Sound := by
  intro place entries h
  cases place <;> cases h

/-- A tree is sound if its names are, and all that is in it. -/
theorem sound_directory_iff {entries : List (String × Entry)} : (directory entries).Sound ↔
    (entries.map Prod.fst).Nodup ∧ (∀ name ∈ entries.map Prod.fst, IsName name)
      ∧ ∀ pair ∈ entries, pair.2.Sound := by
  constructor
  · intro h
    obtain ⟨hnodup, hnames⟩ := h [] entries rfl
    refine ⟨hnodup, hnames, fun pair hpair place others hothers => h (pair.1 :: place) others ?_⟩
    rw [at?, (lookup_eq_some_iff hnodup).mpr hpair]
    exact hothers
  · rintro ⟨hnodup, hnames, hall⟩ place others h
    cases place with
    | nil =>
        obtain rfl := directory.inj (Option.some.inj h)
        exact ⟨hnodup, hnames⟩
    | cons name place =>
        obtain ⟨entry, hentry, hplace⟩ := Option.bind_eq_some_iff.mp h
        exact hall _ ((lookup_eq_some_iff hnodup).mp hentry) place others hplace

/-- What is in a directory is under one of its names. -/
theorem exists_mem_of_isSome {entries : List (String × Entry)} {name : String}
    {names : List String} (h : ((directory entries).at? (name :: names)).isSome) :
    ∃ entry, (name, entry) ∈ entries ∧ (entry.at? names).isSome := by
  obtain ⟨there, hthere⟩ := Option.isSome_iff_exists.mp h
  obtain ⟨entry, hentry, hbelow⟩ := Option.bind_eq_some_iff.mp hthere
  obtain ⟨before, after, rfl, -⟩ := List.lookup_eq_some_iff.mp hentry
  exact ⟨entry, by simp, Option.isSome_iff_exists.mpr ⟨there, hbelow⟩⟩

/-- What a place in a sound tree has is sound. -/
theorem Sound.at? {root entry : Entry} (h : root.Sound) {place : List String}
    (hplace : root.at? place = some entry) : entry.Sound := by
  intro below entries hbelow
  refine h (place ++ below) entries ?_
  rw [at?_append, hplace]
  exact hbelow

/-- The names that lead to something in a sound tree are such. -/
theorem Sound.isName {root entry : Entry} (h : root.Sound) {place : List String}
    (hplace : root.at? place = some entry) : ∀ name ∈ place, IsName name := by
  induction place generalizing root with
  | nil => simp
  | cons name place ih =>
      cases root with
      | file content => cases hplace
      | directory entries =>
          obtain ⟨found, hfound, hplace⟩ := Option.bind_eq_some_iff.mp hplace
          obtain ⟨hnodup, hnames, hall⟩ := sound_directory_iff.mp h
          have hmem := (lookup_eq_some_iff hnodup).mp hfound
          exact List.forall_mem_cons.mpr
            ⟨hnames name (List.mem_map_of_mem hmem), ih (hall _ hmem) hplace⟩

/-- What is above a file is a directory. -/
theorem HasFile.hasDirectory_dropLast {root : Entry} {place : List String} (h : root.HasFile place)
    (hne : place ≠ []) : root.HasDirectory place.dropLast := by
  obtain ⟨content, hplace⟩ := h
  rw [← List.dropLast_concat_getLast hne, at?_append] at hplace
  obtain ⟨entry, habove, hname⟩ := Option.bind_eq_some_iff.mp hplace
  cases entry with
  | file content => cases hname
  | directory entries => exact ⟨entries, habove⟩

end Entry

/-! ## The order of paths -/

namespace Path

/-- A path comes before another if it is the same or less by its names, from the first on. -/
theorem before_iff : ∀ {a b : List String}, before a b = true ↔ a = b ∨ a < b
  | [], [] => by simp [before]
  | [], b :: bs => by simp [before]
  | a :: as, [] => by simp [before]
  | a :: as, b :: bs => by
      rw [before, Bool.or_eq_true, Bool.and_eq_true, decide_eq_true_eq, beq_iff_eq, before_iff,
        List.cons_lt_cons_iff, List.cons.injEq]
      constructor
      · rintro (hlt | ⟨rfl, rfl | hlt⟩)
        · exact .inr (.inl hlt)
        · exact .inl ⟨rfl, rfl⟩
        · exact .inr (.inr ⟨rfl, hlt⟩)
      · rintro (⟨rfl, rfl⟩ | hlt | ⟨rfl, hlt⟩)
        · exact .inr ⟨rfl, .inl rfl⟩
        · exact .inl hlt
        · exact .inr ⟨rfl, .inr hlt⟩

theorem before_total (a b : List String) : (before a b || before b a) = true := by
  rw [Bool.or_eq_true, before_iff, before_iff]
  rcases lt_trichotomy a b with hlt | heq | hgt
  · exact .inl (.inr hlt)
  · exact .inl (.inl heq)
  · exact .inr (.inr hgt)

theorem before_trans (a b c : List String) (hab : before a b = true) (hbc : before b c = true) :
    before a c = true := by
  rw [before_iff] at hab hbc ⊢
  rcases hab with rfl | hab
  · exact hbc
  · rcases hbc with rfl | hbc
    · exact .inr hab
    · exact .inr (lt_trans hab hbc)

theorem sorted_mergeSort (files : List (List String)) :
    (files.mergeSort before).Pairwise fun a b => before a b = true :=
  List.pairwise_mergeSort before_trans before_total files

/-- What leads to both makes no difference to their order. -/
theorem before_append (above a b : List String) :
    before (above ++ a) (above ++ b) = before a b := by
  induction above with
  | nil => rfl
  | cons name above ih => simp [before, ih]

/-- Lists that differ are in strict order once they are in order. -/
theorem pairwise_mergeSort_of_nodup {files : List (List String)} (h : files.Nodup) :
    (files.mergeSort before).Pairwise (· < ·) := by
  have hnodup := (List.mergeSort_perm files before).nodup_iff.mpr h
  refine ((sorted_mergeSort files).and hnodup).imp fun ⟨hbefore, hne⟩ => ?_
  exact (before_iff.mp hbefore).resolve_left hne

/-! ## The names of question files -/

/-- The name of a question file: something, and the ending behind it. -/
def IsQuestionName (name : String) : Prop := ∃ stem ≠ "", name = stem ++ ".toml"

theorem isToml_iff {name : String} : isToml name = true ↔ IsQuestionName name := by
  unfold isToml IsQuestionName
  dsimp only
  rw [Bool.and_eq_true, List.isSuffixOf_iff_suffix, bne_iff_ne]
  constructor
  · rintro ⟨⟨stem, hstem⟩, hne⟩
    refine ⟨String.ofList stem, ?_, ?_⟩
    · intro hnil
      have hempty : stem = [] := by simpa using congrArg String.toList hnil
      rw [hempty, List.nil_append] at hstem
      exact hne hstem.symm
    · rw [← String.toList_inj, String.toList_append, String.toList_ofList]
      exact hstem.symm
  · rintro ⟨stem, hne, rfl⟩
    rw [String.toList_append]
    refine ⟨List.suffix_append _ _, fun heq => hne ?_⟩
    exact String.toList_eq_nil_iff.mp (List.append_left_eq_self.mp heq)

end Path

end Gapfill
