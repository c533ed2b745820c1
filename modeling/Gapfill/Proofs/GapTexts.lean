import Mathlib.Data.List.Dedup
import Mathlib.Data.List.Forall2
import Mathlib.Data.List.Induction
import Mathlib.Data.List.Sort
import Gapfill.Batch
import Gapfill.Cli.Grade
import Gapfill.Proofs.Text.Runs

/-!
# One text for each gap

A gap is named by a text, and many texts name the same one: `1`, ` 01` and `+1`
(`SpellsGap`). The texts that a learner gives are put under their gaps one after
the other, and a later one takes the place of an earlier one. So nothing but this
is lost: for each gap that is spelled at all there is one text, that of the last
entry that spells it (`GapAnswers.Keeps`), and as many texts as entries just if no
two spell the same gap.

This holds of a table in a responses file, whose entries are taken in the order
of their names, and of answers on the command line, taken as they come
(`Response.texts_kept`). The step is `GapAnswers.mem_insert_iff`, the induction
over the entries, from the last one, `GapAnswers.mem_ofList_iff`.
-/

namespace Gapfill

/-! ## Lists in step -/

section

variable {ε α β : Type} {R : α → β → Prop} {xs : List α} {ys : List β}

theorem forall₂_append_cons_right {before after : List β} {y : β}
    (h : List.Forall₂ R xs (before ++ y :: after)) :
    ∃ before' x after', xs = before' ++ x :: after' ∧ R x y ∧ List.Forall₂ R after' after := by
  obtain ⟨x, after', hx, hafter, hdrop⟩ :=
    List.forall₂_cons_right_iff.mp (List.forall₂_drop_append xs before (y :: after) h)
  refine ⟨xs.take before.length, x, after', ?_, hx, hafter⟩
  rw [← hdrop, List.take_append_drop]

theorem exists_left_of_forall₂ (h : List.Forall₂ R xs ys) {y : β} (hy : y ∈ ys) :
    ∃ x ∈ xs, R x y := by
  obtain ⟨before, after, rfl⟩ := List.append_of_mem hy
  obtain ⟨before', x, after', rfl, hx, -⟩ := forall₂_append_cons_right h
  exact ⟨x, List.mem_append_right _ List.mem_cons_self, hx⟩

theorem exists_right_of_forall₂ (h : List.Forall₂ R xs ys) {x : α} (hx : x ∈ xs) :
    ∃ y ∈ ys, R x y := exists_left_of_forall₂ (R := fun y x => R x y) h.flip hx

theorem exists_forall₂_iff : (∃ ys, List.Forall₂ R xs ys) ↔ ∀ x ∈ xs, ∃ y, R x y := by
  constructor
  · rintro ⟨ys, h⟩ x hx
    obtain ⟨y, -, hy⟩ := exists_right_of_forall₂ h hx
    exact ⟨y, hy⟩
  · intro h
    induction xs with
    | nil => exact ⟨[], .nil⟩
    | cons x xs ih =>
        obtain ⟨⟨y, hy⟩, hxs⟩ := List.forall_mem_cons.mp h
        obtain ⟨ys, hys⟩ := ih hxs
        exact ⟨y :: ys, .cons hy hys⟩

theorem forall₂_exists_iff {γ : Type} {S : β → γ → Prop} {zs : List γ} :
    List.Forall₂ (fun x z => ∃ y, R x y ∧ S y z) xs zs ↔
      ∃ ys, List.Forall₂ R xs ys ∧ List.Forall₂ S ys zs := by
  constructor
  · intro h
    induction h with
    | nil => exact ⟨[], .nil, .nil⟩
    | cons hfirst _ ih =>
        obtain ⟨y, hx, hz⟩ := hfirst
        obtain ⟨ys, hxs, hzs⟩ := ih
        exact ⟨y :: ys, .cons hx hxs, .cons hz hzs⟩
  · rintro ⟨ys, hxs, hzs⟩
    induction hxs generalizing zs with
    | nil =>
        obtain rfl := List.forall₂_nil_left_iff.mp hzs
        exact .nil
    | cons hx _ ih =>
        obtain ⟨z, zs', hz, hzs', rfl⟩ := List.forall₂_cons_left_iff.mp hzs
        exact .cons ⟨_, hx, hz⟩ (ih hzs')

/-- A list is read if all its items are, each to its own result. -/
theorem mapM_eq_ok_iff {f : α → Except ε β} :
    xs.mapM f = .ok ys ↔ List.Forall₂ (fun x y => f x = .ok y) xs ys := by
  induction xs generalizing ys with
  | nil => cases ys <;> simp [pure, Except.pure]
  | cons x xs ih =>
      rw [List.mapM_cons]
      cases hx : f x with
      | error e => cases ys <;> simp [bind, Except.bind, hx]
      | ok y =>
          cases hxs : xs.mapM f with
          | error e => cases ys <;> simp [bind, Except.bind, ← ih, hx, hxs]
          | ok read => cases ys <;> simp [bind, Except.bind, pure, Except.pure, ← ih, hx, hxs]

end

/-! ## Spellings of numbers -/

/-- The text spells the number of a gap: in decimal digits, before which a plus may stand, with
blanks around them or not. -/
def SpellsGap (key : String) (gap : Nat) : Prop :=
  ∃ digits ≠ [], (∀ c ∈ digits, c.isDigit = true)
    ∧ (trim key.toList = digits ∨ trim key.toList = '+' :: digits)
    ∧ ofDecimalDigits digits = gap ∧ gap ≤ maxCount

theorem le_foldl_digits (digits : List Char) : ∀ n : Nat,
    n ≤ digits.foldl (fun n c => n * 10 + (c.toNat - '0'.toNat)) n := by
  induction digits with
  | nil => exact fun n => le_rfl
  | cons c digits ih =>
      intro n
      calc n ≤ n * 10 + (c.toNat - '0'.toNat) := by omega
        _ ≤ _ := ih _

theorem readCountFrom_eq_ok_iff {m : Nat} : ∀ {digits : List Char} {n : Nat}, n ≤ maxCount →
    (readCountFrom n digits = .ok m ↔ (∀ c ∈ digits, c.isDigit = true)
      ∧ digits.foldl (fun n c => n * 10 + (c.toNat - '0'.toNat)) n = m ∧ m ≤ maxCount)
  | [], n, hn => by
      rw [readCountFrom, List.foldl_nil]
      constructor
      · intro h
        obtain rfl := Except.ok.inj h
        exact ⟨by simp, rfl, hn⟩
      · rintro ⟨-, rfl, -⟩
        rfl
  | c :: digits, n, hn => by
      rw [readCountFrom, List.foldl_cons, List.forall_mem_cons]
      by_cases hc : c.isDigit = true
      · rw [if_pos hc]
        dsimp only
        by_cases hnext : n * 10 + (c.toNat - '0'.toNat) ≤ maxCount
        · rw [if_pos hnext, readCountFrom_eq_ok_iff hnext]
          exact and_congr_left fun _ => (and_iff_right hc).symm
        · -- the number only grows with further digits
          rw [if_neg hnext]
          refine iff_of_false (fun h => by cases h) ?_
          rintro ⟨-, rfl, hle⟩
          exact hnext (le_trans (le_foldl_digits digits _) hle)
      · rw [if_neg hc]
        exact iff_of_false (fun h => by cases h) fun h => hc h.1.1

theorem readCount_eq_ok_iff {text : List Char} {gap : Nat} : readCount text = .ok gap ↔
    ∃ digits ≠ [], (∀ c ∈ digits, c.isDigit = true) ∧ (text = digits ∨ text = '+' :: digits)
      ∧ ofDecimalDigits digits = gap ∧ gap ≤ maxCount := by
  have hread : ∀ digits, readCountFrom 0 digits = .ok gap ↔
      (∀ c ∈ digits, c.isDigit = true) ∧ ofDecimalDigits digits = gap ∧ gap ≤ maxCount :=
    fun digits => readCountFrom_eq_ok_iff (Nat.zero_le _)
  have hplus : ('+' : Char).isDigit = false := by decide
  unfold readCount
  split
  · refine iff_of_false (fun h => by cases h) ?_
    rintro ⟨digits, hne, -, rfl | h, -⟩
    · exact hne rfl
    · cases h
  · refine iff_of_false (fun h => by cases h) ?_
    rintro ⟨digits, hne, hdigits, rfl | h, -⟩
    · simp [hplus] at hdigits
    · exact hne (List.cons.inj h).2.symm
  · rename_i rest hrest
    rw [hread]
    constructor
    · rintro ⟨hdigits, hgap⟩
      exact ⟨rest, hrest, hdigits, .inr rfl, hgap⟩
    · rintro ⟨digits, -, hdigits, rfl | h, hgap⟩
      · simp [hplus] at hdigits
      · rw [(List.cons.inj h).2]
        exact ⟨hdigits, hgap⟩
  · rename_i hne hsign hsigned
    rw [hread]
    constructor
    · rintro ⟨hdigits, hgap⟩
      exact ⟨text, hne, hdigits, .inl rfl, hgap⟩
    · rintro ⟨digits, -, hdigits, rfl | rfl, hgap⟩
      · exact ⟨hdigits, hgap⟩
      · exact absurd rfl (hsigned digits)

theorem readCount_trim_eq_ok_iff {key : String} {gap : Nat} :
    readCount (trim key.toList) = .ok gap ↔ SpellsGap key gap := readCount_eq_ok_iff

theorem SpellsGap.unique {key : String} {gap gap' : Nat} (h : SpellsGap key gap)
    (h' : SpellsGap key gap') : gap = gap' := by
  rw [← readCount_trim_eq_ok_iff] at h h'
  exact Except.ok.inj (h.symm.trans h')

/-! ## Putting texts under numbers -/

/-- The last entry for the gap has this text. -/
def IsLastText (gap : Nat) (text : String) (entries : List (String × String)) : Prop :=
  ∃ before key after, entries = before ++ (key, text) :: after ∧ SpellsGap key gap
    ∧ ∀ other ∈ after, ¬ SpellsGap other.1 gap

namespace GapAnswers

/-- The numbers increase, so that there is one text under each. -/
def Ordered (answers : GapAnswers) : Prop := answers.Pairwise fun a b => a.1 < b.1

/-- For each gap that an entry spells, there is the text of the last such entry, and nothing else.
-/
structure Keeps (answers : GapAnswers) (entries : List (String × String)) : Prop where
  spelled : ∀ entry ∈ entries, ∃ gap, SpellsGap entry.1 gap
  ordered : answers.Ordered
  mem_iff : ∀ gap text, (gap, text) ∈ answers ↔ IsLastText gap text entries

variable {answers : GapAnswers} {gap : Nat} {text : String} {entry : Nat × String}
  {entries : List (Nat × String)}

/-- A text takes the place of the one under its number, and leaves the others. -/
theorem mem_insert_iff (h : answers.Ordered) : entry ∈ insert gap text answers ↔
    entry = (gap, text) ∨ (entry ∈ answers ∧ entry.1 ≠ gap) := by
  induction answers with
  | nil => simp [insert]
  | cons first rest ih =>
      obtain ⟨g, t⟩ := first
      obtain ⟨hfirst, hrest⟩ := List.pairwise_cons.mp h
      rw [insert]
      split
      · rename_i hlt
        -- every number there is greater
        have hne : ∀ other ∈ (g, t) :: rest, other.1 ≠ gap := by
          refine List.forall_mem_cons.mpr ⟨Nat.ne_of_gt hlt, fun other hother => ?_⟩
          exact Nat.ne_of_gt (lt_trans hlt (hfirst other hother))
        rw [List.mem_cons]
        exact or_congr_right (iff_self_and.mpr (hne entry))
      · split
        · rename_i hlt heq
          have hne : ∀ other ∈ rest, other.1 ≠ gap :=
            fun other hother => Nat.ne_of_gt (heq ▸ hfirst other hother)
          rw [List.mem_cons, List.mem_cons]
          refine or_congr_right ⟨fun hmem => ⟨.inr hmem, hne entry hmem⟩, ?_⟩
          rintro ⟨rfl | hmem, hnot⟩
          · exact absurd heq.symm hnot
          · exact hmem
        · rename_i hlt hneq
          have hne : (g, t).1 ≠ gap := fun heq => hneq heq.symm
          rw [List.mem_cons, ih hrest, List.mem_cons]
          constructor
          · rintro (rfl | hnew | ⟨hmem, hnot⟩)
            · exact .inr ⟨.inl rfl, hne⟩
            · exact .inl hnew
            · exact .inr ⟨.inr hmem, hnot⟩
          · rintro (hnew | ⟨rfl | hmem, hnot⟩)
            · exact .inr (.inl hnew)
            · exact .inl rfl
            · exact .inr (.inr ⟨hmem, hnot⟩)

theorem Ordered.insert (h : answers.Ordered) : (insert gap text answers).Ordered := by
  induction answers with
  | nil => exact List.pairwise_singleton _ _
  | cons first rest ih =>
      obtain ⟨g, t⟩ := first
      obtain ⟨hfirst, hrest⟩ := List.pairwise_cons.mp h
      rw [GapAnswers.insert]
      split
      · rename_i hlt
        refine List.pairwise_cons.mpr ⟨List.forall_mem_cons.mpr ⟨hlt, fun other hother => ?_⟩, h⟩
        exact lt_trans hlt (hfirst other hother)
      · split
        · rename_i heq
          exact List.pairwise_cons.mpr ⟨heq ▸ hfirst, hrest⟩
        · rename_i hlt hneq
          refine List.pairwise_cons.mpr ⟨fun other hother => ?_, ih hrest⟩
          rcases (mem_insert_iff hrest).mp hother with rfl | ⟨hmem, -⟩
          · exact lt_of_le_of_ne (Nat.le_of_not_lt hlt) (Ne.symm hneq)
          · exact hfirst other hmem

theorem ofList_concat (entries : List (Nat × String)) (entry : Nat × String) :
    ofList (entries ++ [entry]) = (ofList entries).insert entry.1 entry.2 := by
  simp [ofList]

theorem ordered_ofList (entries : List (Nat × String)) : (ofList entries).Ordered := by
  induction entries using List.reverseRecOn with
  | nil => exact List.Pairwise.nil
  | append_singleton entries entry ih => exact ofList_concat entries entry ▸ ih.insert

/-- Under each number there is the text that came last. -/
theorem mem_ofList_iff : (gap, text) ∈ ofList entries ↔
    ∃ before after, entries = before ++ (gap, text) :: after ∧ ∀ other ∈ after, other.1 ≠ gap := by
  induction entries using List.reverseRecOn with
  | nil => simp [ofList]
  | append_singleton entries entry ih =>
      rw [ofList_concat, mem_insert_iff (ordered_ofList entries), ih]
      constructor
      · rintro (hlast | ⟨⟨before, after, rfl, hafter⟩, hne⟩)
        · exact ⟨entries, [], by rw [hlast], by simp⟩
        · exact ⟨before, after ++ [entry], by simp,
            List.forall_mem_append.mpr ⟨hafter, List.forall_mem_singleton.mpr (Ne.symm hne)⟩⟩
      · rintro ⟨before, after, heq, hafter⟩
        rcases List.eq_nil_or_concat after with rfl | ⟨after', last, rfl⟩
        · obtain ⟨-, hlast⟩ := List.append_inj' heq rfl
          exact .inl (List.head_eq_of_cons_eq hlast).symm
        · rw [List.concat_eq_append, ← List.cons_append, ← List.append_assoc] at heq
          obtain ⟨rfl, hlast⟩ := List.append_inj' heq rfl
          obtain rfl := List.head_eq_of_cons_eq hlast
          rw [List.concat_eq_append] at hafter
          obtain ⟨hafter, hne⟩ := List.forall_mem_append.mp hafter
          exact .inr ⟨⟨before, after', rfl, hafter⟩, (List.forall_mem_singleton.mp hne).symm⟩

theorem mem_keys_insert_iff {gap' : Nat} (h : answers.Ordered) :
    gap' ∈ (insert gap text answers).map Prod.fst ↔ gap' = gap ∨ gap' ∈ answers.map Prod.fst := by
  simp only [List.mem_map, mem_insert_iff h]
  constructor
  · rintro ⟨entry, rfl | ⟨hmem, -⟩, rfl⟩
    · exact .inl rfl
    · exact .inr ⟨entry, hmem, rfl⟩
  · rintro (rfl | ⟨entry, hmem, rfl⟩)
    · exact ⟨_, .inl rfl, rfl⟩
    · by_cases heq : entry.1 = gap
      · exact ⟨_, .inl rfl, heq.symm⟩
      · exact ⟨entry, .inr ⟨hmem, heq⟩, rfl⟩

theorem mem_keys_ofList_iff :
    gap ∈ (ofList entries).map Prod.fst ↔ gap ∈ entries.map Prod.fst := by
  induction entries using List.reverseRecOn with
  | nil => rfl
  | append_singleton entries entry ih =>
      rw [ofList_concat, mem_keys_insert_iff (ordered_ofList entries), ih, List.map_append,
        List.mem_append, List.map_singleton, List.mem_singleton, or_comm]

theorem length_ofList (entries : List (Nat × String)) :
    (ofList entries).length = (entries.map Prod.fst).dedup.length := by
  have hnodup : ((ofList entries).map Prod.fst).Nodup :=
    List.pairwise_map.mpr ((ordered_ofList entries).imp Nat.ne_of_lt)
  have hperm : ((ofList entries).map Prod.fst).Perm (entries.map Prod.fst).dedup := by
    rw [List.perm_ext_iff_of_nodup hnodup (List.nodup_dedup _)]
    intro gap
    rw [List.mem_dedup, mem_keys_ofList_iff]
  rw [← hperm.length_eq, List.length_map]

end GapAnswers

/-! ## Entries under the numbers that they spell -/

/-- The entry spells the number and has the text. -/
def IsNumbered (entry : String × String) (numbered : Nat × String) : Prop :=
  SpellsGap entry.1 numbered.1 ∧ entry.2 = numbered.2

section

variable {entries : List (String × String)} {numbered : List (Nat × String)}

theorem isLastText_iff (h : List.Forall₂ IsNumbered entries numbered) {gap : Nat} {text : String} :
    IsLastText gap text entries ↔
      ∃ before after, numbered = before ++ (gap, text) :: after
        ∧ ∀ other ∈ after, other.1 ≠ gap := by
  constructor
  · rintro ⟨before, key, after, rfl, hkey, hafter⟩
    obtain ⟨before', ⟨gap', text'⟩, after', rfl, ⟨hgap, rfl⟩, hrest⟩ :=
      forall₂_append_cons_right (R := fun n e => IsNumbered e n) h.flip
    obtain rfl := hkey.unique hgap
    refine ⟨before', after', rfl, fun other hother heq => ?_⟩
    obtain ⟨entry, hentry, hspells, -⟩ := exists_right_of_forall₂ hrest hother
    exact hafter entry hentry (heq ▸ hspells)
  · rintro ⟨before, after, rfl, hafter⟩
    obtain ⟨before', ⟨key, text'⟩, after', rfl, ⟨hgap, rfl⟩, hrest⟩ := forall₂_append_cons_right h
    refine ⟨before', key, after', rfl, hgap, fun other hother hspells => ?_⟩
    obtain ⟨entry, hentry, hspells', -⟩ := exists_right_of_forall₂ hrest hother
    exact hafter entry hentry (hspells'.unique hspells)

/-- Two entries spell the same gap just if they come under the same number. -/
theorem pairwise_spell_iff (h : List.Forall₂ IsNumbered entries numbered) :
    (entries.Pairwise fun a b => ∀ gap, SpellsGap a.1 gap → ¬ SpellsGap b.1 gap) ↔
      (numbered.map Prod.fst).Nodup := by
  induction h with
  | nil => exact iff_of_true .nil .nil
  | @cons entry n entries numbered hfirst hrest ih =>
      rw [List.pairwise_cons, ih, List.map_cons, List.nodup_cons]
      refine and_congr_left fun _ => ?_
      constructor
      · intro hnot hmem
        obtain ⟨other, hother, heq⟩ := List.mem_map.mp hmem
        obtain ⟨entry', hentry', hspells, -⟩ := exists_left_of_forall₂ hrest hother
        exact hnot entry' hentry' n.1 hfirst.1 (heq ▸ hspells)
      · intro hnot entry' hentry' gap hgap hgap'
        obtain ⟨other, hother, hspells, -⟩ := exists_right_of_forall₂ hrest hentry'
        obtain rfl := hfirst.1.unique hgap
        exact hnot (List.mem_map.mpr ⟨other, hother, hspells.unique hgap'⟩)

namespace GapAnswers

variable {answers : GapAnswers}

theorem keeps_ofList (h : List.Forall₂ IsNumbered entries numbered) :
    (ofList numbered).Keeps entries where
  spelled entry hentry := by
    obtain ⟨n, -, hn, -⟩ := exists_right_of_forall₂ h hentry
    exact ⟨n.1, hn⟩
  ordered := ordered_ofList numbered
  mem_iff gap text := by rw [mem_ofList_iff, isLastText_iff h]

/-- Answers that keep the texts are what the numbered entries make. -/
theorem keeps_iff : answers.Keeps entries ↔
    ∃ numbered, List.Forall₂ IsNumbered entries numbered ∧ answers = ofList numbered := by
  constructor
  · intro h
    obtain ⟨numbered, hnumbered⟩ : ∃ numbered, List.Forall₂ IsNumbered entries numbered := by
      refine exists_forall₂_iff.mpr fun entry hentry => ?_
      obtain ⟨gap, hgap⟩ := h.spelled entry hentry
      exact ⟨(gap, entry.2), hgap, rfl⟩
    have hkeeps := keeps_ofList hnumbered
    have : Std.Irrefl fun a b : Nat × String => a.1 < b.1 := ⟨fun a => Nat.lt_irrefl a.1⟩
    refine ⟨numbered, hnumbered, h.ordered.eq_of_mem_iff hkeeps.ordered fun ⟨gap, text⟩ => ?_⟩
    rw [h.mem_iff, hkeeps.mem_iff]
  · rintro ⟨numbered, hnumbered, rfl⟩
    exact keeps_ofList hnumbered

/-- There is a text for every gap that is spelled. -/
theorem Keeps.exists_text_iff (h : answers.Keeps entries) (gap : Nat) :
    (∃ text, (gap, text) ∈ answers) ↔ ∃ entry ∈ entries, SpellsGap entry.1 gap := by
  obtain ⟨numbered, hnumbered, rfl⟩ := keeps_iff.mp h
  have hkeys : (∃ text, (gap, text) ∈ ofList numbered) ↔ gap ∈ numbered.map Prod.fst := by
    rw [← mem_keys_ofList_iff]
    simp
  rw [hkeys]
  constructor
  · intro hmem
    obtain ⟨n, hn, rfl⟩ := List.mem_map.mp hmem
    obtain ⟨entry, hentry, hspells, -⟩ := exists_left_of_forall₂ hnumbered hn
    exact ⟨entry, hentry, hspells⟩
  · rintro ⟨entry, hentry, hspells⟩
    obtain ⟨n, hn, hspells', -⟩ := exists_right_of_forall₂ hnumbered hentry
    exact List.mem_map.mpr ⟨n, hn, hspells'.unique hspells⟩

/-- There are as many texts as gaps that are spelled. -/
theorem Keeps.length_eq_iff (h : answers.Keeps entries) :
    answers.length ≤ entries.length ∧ (answers.length = entries.length ↔
      entries.Pairwise fun a b => ∀ gap, SpellsGap a.1 gap → ¬ SpellsGap b.1 gap) := by
  obtain ⟨numbered, hnumbered, rfl⟩ := keeps_iff.mp h
  have hsub : List.Sublist (numbered.map Prod.fst).dedup (numbered.map Prod.fst) :=
    List.dedup_sublist _
  have hlength : entries.length = (numbered.map Prod.fst).length := by
    rw [hnumbered.length_eq, List.length_map]
  rw [length_ofList, pairwise_spell_iff hnumbered, hlength]
  refine ⟨hsub.length_le, fun heq => ?_, fun hnodup => ?_⟩
  · rw [← hsub.eq_of_length heq]
    exact List.nodup_dedup _
  · rw [List.Nodup.dedup hnodup]

end GapAnswers

end

/-! ## Responses files -/

namespace BatchEntry

theorem readGaps_eq_ok_iff {id : String} : ∀ {gaps : List (String × String)}
    {numbered : List (Nat × String)},
    readGaps id gaps = .ok numbered ↔ List.Forall₂ IsNumbered gaps numbered
  | [], numbered => by
      rw [readGaps, List.forall₂_nil_left_iff]
      exact ⟨fun h => (Except.ok.inj h).symm, fun h => h ▸ rfl⟩
  | (key, text) :: gaps, numbered => by
      rw [readGaps, List.forall₂_cons_left_iff]
      cases hkey : readCount (trim key.toList) with
      | error fault =>
          refine iff_of_false (fun h => by cases h) ?_
          rintro ⟨n, -, hn, -⟩
          rw [readCount_trim_eq_ok_iff.mpr hn.1] at hkey
          cases hkey
      | ok gap =>
          have hgap := readCount_trim_eq_ok_iff.mp hkey
          dsimp only
          constructor
          · intro h
            cases hrest : readGaps id gaps with
            | error e => simp [hrest, Except.map] at h
            | ok rest =>
                rw [hrest] at h
                exact ⟨(gap, text), rest, ⟨hgap, rfl⟩, readGaps_eq_ok_iff.mp hrest,
                  (Except.ok.inj h).symm⟩
          · rintro ⟨⟨gap', text'⟩, rest, ⟨hgap', rfl⟩, hrest, rfl⟩
            rw [readGaps_eq_ok_iff.mpr hrest, hgap.unique hgap']
            rfl

/-- What an entry of a responses file gives: its whole answer, or else one text for each gap that
a key of its table spells, taken in the order of the keys. -/
def Gives (entry : BatchEntry) (submission : Submission) : Prop :=
  submission.id = entry.id ∧
    match entry.answer with
    | some answer => submission.response = .single answer
    | none => ∃ inOrder answers, inOrder.Perm entry.gaps
        ∧ inOrder.Pairwise (fun a b => a.1 ≤ b.1)
        ∧ submission.response = .cloze answers ∧ answers.Keeps inOrder

theorem submission_eq_ok {entry : BatchEntry} (h : entry.answer = none) {submission : Submission} :
    entry.submission = .ok submission ↔ ∃ numbered,
      List.Forall₂ IsNumbered (entry.gaps.mergeSort fun a b => a.1 ≤ b.1) numbered
      ∧ submission = ⟨entry.id, .cloze (.ofList numbered)⟩ := by
  unfold BatchEntry.submission
  rw [h]
  dsimp only
  constructor
  · intro hok
    cases hread : readGaps entry.id (entry.gaps.mergeSort fun a b => a.1 ≤ b.1) with
    | error e => simp [hread, Except.map] at hok
    | ok numbered =>
        rw [hread] at hok
        exact ⟨numbered, readGaps_eq_ok_iff.mp hread, (Except.ok.inj hok).symm⟩
  · rintro ⟨numbered, hnumbered, rfl⟩
    rw [readGaps_eq_ok_iff.mpr hnumbered]
    rfl

theorem gives_of_submission {entry : BatchEntry} {submission : Submission}
    (h : entry.submission = .ok submission) : entry.Gives submission := by
  cases hanswer : entry.answer with
  | some answer =>
      unfold BatchEntry.submission at h
      rw [hanswer] at h
      obtain rfl := Except.ok.inj h
      exact ⟨rfl, by rw [hanswer]⟩
  | none =>
      obtain ⟨numbered, hnumbered, rfl⟩ := (submission_eq_ok hanswer).mp h
      refine ⟨rfl, ?_⟩
      rw [hanswer]
      have hsorted : (entry.gaps.mergeSort fun a b => a.1 ≤ b.1).Pairwise
          fun a b => decide (a.1 ≤ b.1) = true := by
        apply List.pairwise_mergeSort
        · intro a b c hab hbc
          exact decide_eq_true (String.le_trans (of_decide_eq_true hab) (of_decide_eq_true hbc))
        · intro a b
          simpa using String.le_total a.1 b.1
      exact ⟨_, _, List.mergeSort_perm _ _, hsorted.imp of_decide_eq_true, rfl,
        GapAnswers.keeps_ofList hnumbered⟩

/-- An entry is refused only if it has no whole answer and a key that spells no number. -/
theorem exists_submission_iff {entry : BatchEntry} :
    (∃ submission, entry.submission = .ok submission) ↔
      (entry.answer = none → ∀ pair ∈ entry.gaps, ∃ gap, SpellsGap pair.1 gap) := by
  cases hanswer : entry.answer with
  | some answer =>
      refine iff_of_true ⟨⟨entry.id, .single answer⟩, ?_⟩ (fun h => by cases h)
      unfold BatchEntry.submission
      rw [hanswer]
  | none =>
      simp only [submission_eq_ok hanswer, forall_const]
      rw [exists_comm]
      simp only [exists_and_left, exists_eq, and_true]
      rw [exists_forall₂_iff]
      simp only [List.mem_mergeSort]
      refine forall₂_congr fun pair _ => ⟨?_, ?_⟩
      · rintro ⟨n, hn, -⟩
        exact ⟨n.1, hn⟩
      · rintro ⟨gap, hgap⟩
        exact ⟨(gap, pair.2), hgap, rfl⟩

end BatchEntry

/-- The entries of a responses file. -/
def BatchEntry.listed? (document : String) : Option (List BatchEntry) :=
  (Toml.parse document).bind fun root =>
    root.optional? "responses" (Toml.Value.listOf? ofValue?) []

theorem Submission.batchOfToml_eq_ok_iff {source document : String}
    {submissions : List Submission} : batchOfToml source document = .ok submissions ↔
      ∃ entries, BatchEntry.listed? document = some entries
        ∧ List.Forall₂ (fun entry submission => entry.submission = .ok submission) entries
          submissions := by
  unfold batchOfToml BatchEntry.listed?
  dsimp only
  cases (Toml.parse document).bind fun root =>
    root.optional? "responses" (Toml.Value.listOf? BatchEntry.ofValue?) [] with
  | none => simp
  | some entries => simp [mapM_eq_ok_iff]

/-! ## Answers on the command line -/

/-- An answer on the command line: how the gap is spelled, and behind the first equals sign its
text. -/
def Cli.IsGapText (answer : String) (entry : String × String) : Prop :=
  answer.toList = entry.1.toList ++ '=' :: entry.2.toList ∧ '=' ∉ entry.1.toList

theorem Cli.readAnswer_eq_ok_iff {answer : String} {numbered : Nat × String} :
    readAnswer answer = .ok numbered ↔
      ∃ entry, IsGapText answer entry ∧ IsNumbered entry numbered := by
  constructor
  · intro h
    unfold readAnswer at h
    dsimp only at h
    split at h
    · cases h
    · rename_i sign text hrest
      split at h
      · cases h
      · rename_i gap hgap
        obtain rfl := Except.ok.inj h
        obtain rfl : sign = '=' := by simpa using head_of_dropWhile hrest
        refine ⟨(String.ofList (answer.toList.takeWhile (· != '=')), String.ofList text),
          ⟨?_, ?_⟩, ?_, rfl⟩
        · have htext := List.takeWhile_append_dropWhile (p := (· != '=')) (l := answer.toList)
          rw [hrest] at htext
          simpa using htext.symm
        · rw [String.toList_ofList]
          intro hmem
          simpa using List.mem_takeWhile_imp hmem
        · rw [← readCount_trim_eq_ok_iff, String.toList_ofList]
          exact hgap
  · rintro ⟨⟨key, text⟩, ⟨hanswer, hkey⟩, hgap, rfl⟩
    have hrun : ∀ c ∈ key.toList, (c != '=') = true :=
      fun c hc => bne_iff_ne.mpr fun heq => hkey (heq ▸ hc)
    have hstop : ('=' != '=') = false := by decide
    unfold readAnswer
    rw [hanswer, takeWhile_append_cons hrun hstop, dropWhile_append_cons hrun hstop]
    dsimp only
    rw [readCount_trim_eq_ok_iff.mpr hgap]
    dsimp only
    rw [String.ofList_toList]

theorem Cli.inlineResponse_cloze_eq_ok_iff {values : List String} {response : Response} :
    inlineResponse .cloze values = .ok response ↔ ∃ entries answers,
      List.Forall₂ IsGapText values entries ∧ response = .cloze answers
        ∧ answers.Keeps entries := by
  have hread : ∀ numbered, values.mapM readAnswer = .ok numbered ↔
      ∃ entries, List.Forall₂ IsGapText values entries
        ∧ List.Forall₂ IsNumbered entries numbered := by
    intro numbered
    simp only [mapM_eq_ok_iff, readAnswer_eq_ok_iff]
    exact forall₂_exists_iff
  have hresponse : inlineResponse .cloze values = .ok response ↔
      ∃ numbered, values.mapM readAnswer = .ok numbered
        ∧ response = .cloze (.ofList numbered) := by
    rw [inlineResponse]
    cases values.mapM readAnswer <;> simp [Except.map, eq_comm]
  rw [hresponse]
  constructor
  · rintro ⟨numbered, hvalues, rfl⟩
    obtain ⟨entries, hentries, hnumbered⟩ := (hread numbered).mp hvalues
    exact ⟨entries, _, hentries, rfl, GapAnswers.keeps_ofList hnumbered⟩
  · rintro ⟨entries, answers, hentries, rfl, hkeeps⟩
    obtain ⟨numbered, hnumbered, rfl⟩ := GapAnswers.keeps_iff.mp hkeeps
    exact ⟨numbered, (hread numbered).mpr ⟨entries, hentries, hnumbered⟩, rfl⟩

/-! ## What is kept -/

/-- A response without a whole answer has one text for each gap that is spelled, that of the last
entry for it, whether it is read from a file or made of answers on the command line. Its entries
are as many as those that were given just if no two of them spell one gap; and entries are refused
only for what they spell, or in what form. -/
theorem Response.texts_kept :
    (∀ source document submissions, Submission.batchOfToml source document = .ok submissions →
      ∃ entries, BatchEntry.listed? document = some entries
        ∧ List.Forall₂ BatchEntry.Gives entries submissions)
    ∧ (∀ source document,
      (∃ submissions, Submission.batchOfToml source document = .ok submissions) ↔
        ∃ entries, BatchEntry.listed? document = some entries
          ∧ ∀ entry ∈ entries, entry.answer = none →
            ∀ pair ∈ entry.gaps, ∃ gap, SpellsGap pair.1 gap)
    ∧ (∀ values response, Cli.inlineResponse .cloze values = .ok response ↔
      ∃ entries answers, List.Forall₂ Cli.IsGapText values entries ∧ response = .cloze answers
        ∧ answers.Keeps entries)
    ∧ ∀ (answers : GapAnswers) (entries : List (String × String)), answers.Keeps entries →
      (∀ gap, (∃ text, (gap, text) ∈ answers) ↔ ∃ entry ∈ entries, SpellsGap entry.1 gap)
        ∧ answers.length ≤ entries.length
        ∧ (answers.length = entries.length ↔
          entries.Pairwise fun a b => ∀ gap, SpellsGap a.1 gap → ¬ SpellsGap b.1 gap) := by
  refine ⟨fun source document submissions h => ?_, fun source document => ?_,
    fun values response => Cli.inlineResponse_cloze_eq_ok_iff,
    fun answers entries h => ⟨h.exists_text_iff, h.length_eq_iff⟩⟩
  · obtain ⟨entries, hentries, hgiven⟩ := Submission.batchOfToml_eq_ok_iff.mp h
    exact ⟨entries, hentries, hgiven.imp fun _ _ => BatchEntry.gives_of_submission⟩
  · simp only [Submission.batchOfToml_eq_ok_iff, ← BatchEntry.exists_submission_iff]
    rw [exists_comm]
    simp only [exists_and_left, exists_forall₂_iff]

/-- A table whose keys stand in their order already is taken as it is. -/
theorem Submission.batchOfToml_of_ordered {source document id : String}
    {gaps : List (String × String)} {numbered : List (Nat × String)}
    (hlisted : BatchEntry.listed? document = some [⟨id, gaps, none⟩])
    (hsorted : gaps.Pairwise fun a b => a.1 ≤ b.1)
    (hgaps : BatchEntry.readGaps id gaps = .ok numbered) :
    batchOfToml source document = .ok [⟨id, .cloze (.ofList numbered)⟩] := by
  have hself : (gaps.mergeSort fun a b => a.1 ≤ b.1) = gaps :=
    List.mergeSort_of_pairwise (hsorted.imp decide_eq_true)
  refine batchOfToml_eq_ok_iff.mpr ⟨_, hlisted, .cons ?_ .nil⟩
  refine (BatchEntry.submission_eq_ok rfl).mpr ⟨numbered, ?_, rfl⟩
  rw [hself]
  exact BatchEntry.readGaps_eq_ok_iff.mp hgaps

/-- A response with three spellings, of three gaps. -/
def threeSpellings : String :=
  "[[responses]]\nid = \"x\"\ngaps = \x7b \" 02\" = \"b\", \"+3\" = \"c\", \"1\" = \"a\" \x7d\n"

theorem Response.threeSpellings_kept :
    Submission.batchOfToml "r.toml" threeSpellings =
        .ok [⟨"x", .cloze [(1, "a"), (2, "b"), (3, "c")]⟩]
      ∧ (∃ entries, BatchEntry.listed? threeSpellings = some entries
        ∧ List.Forall₂ BatchEntry.Gives entries [⟨"x", .cloze [(1, "a"), (2, "b"), (3, "c")]⟩])
      ∧ ∃ entries, List.Forall₂ Cli.IsGapText ["2=b=c", " 1 =a"] entries
        ∧ GapAnswers.Keeps [(1, "a"), (2, "b=c")] entries := by
  have hlisted : BatchEntry.listed? threeSpellings =
      some [⟨"x", [(" 02", "b"), ("+3", "c"), ("1", "a")], none⟩] := by decide +kernel
  have hbatch : Submission.batchOfToml "r.toml" threeSpellings =
      .ok [⟨"x", .cloze [(1, "a"), (2, "b"), (3, "c")]⟩] :=
    Submission.batchOfToml_of_ordered hlisted (by decide) (by rfl)
  obtain ⟨hfile, -, hinline, -⟩ := Response.texts_kept
  obtain ⟨entries, answers, hentries, hresponse, hkeeps⟩ :=
    (hinline ["2=b=c", " 1 =a"] (.cloze [(1, "a"), (2, "b=c")])).mp (by rfl)
  obtain rfl := Response.cloze.inj hresponse
  exact ⟨hbatch, hfile _ _ _ hbatch, entries, hentries, hkeeps⟩

/-- A response with two spellings of one gap. -/
def twoSpellings : String :=
  "[[responses]]\nid = \"x\"\ngaps = \x7b \"01\" = \"b\", \"1\" = \"a\" \x7d\n"

/-- Two texts for one gap are both accepted, and the first is lost. -/
theorem Response.twoSpellings_merge :
    BatchEntry.listed? twoSpellings = some [⟨"x", [("01", "b"), ("1", "a")], none⟩]
      ∧ Submission.batchOfToml "r.toml" twoSpellings = .ok [⟨"x", .cloze [(1, "a")]⟩]
      ∧ Cli.inlineResponse .cloze ["01=b", "1=a"] = .ok (.cloze [(1, "a")]) := by
  have hlisted : BatchEntry.listed? twoSpellings =
      some [⟨"x", [("01", "b"), ("1", "a")], none⟩] := by decide +kernel
  exact ⟨hlisted, Submission.batchOfToml_of_ordered hlisted (by decide) (by rfl), by rfl⟩

end Gapfill
