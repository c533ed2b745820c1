import Gapfill.Proofs.Pattern.SetLookahead
import Gapfill.Proofs.Spacing.OnePass

/-!
# Readers and escaped slashes

A backslash is put before each slash that has none (`slashed`), wherever the slash
stands: in a set, in a range, in a name, in a comment. No reader of patterns has a
use for a slash but as a character that stands for itself, and there the escape
stands for the same character. So each reader has one equation: of the text with
its slashes escaped it reads the same, and leaves the same rest, with its slashes
escaped.

Where a reader takes a run of characters, a slash and a backslash either both end
it, or it is the name of something, and no name has one of them in it.
-/

namespace Gapfill.Pattern

open SpacingRule (escapeSlashes)

/-- The text with a backslash before each slash that has none. -/
def slashed (s : List Char) : List Char := escapeSlashes false s

/-- The same behind a backslash. -/
def slashedBehind (s : List Char) : List Char := escapeSlashes true s

/-- What was read, with the slashes of the rest escaped. -/
def slashRest {α : Type} (read : α × List Char) : α × List Char := (read.1, slashed read.2)

/-- A character that is neither a slash nor a backslash. -/
def Kept (c : Char) : Prop := c ≠ '/' ∧ c ≠ '\\'

instance (c : Char) : Decidable (Kept c) := inferInstanceAs (Decidable (_ ∧ _))

theorem not_kept_iff {c : Char} : ¬ Kept c ↔ c = '/' ∨ c = '\\' := by
  rw [Kept, Decidable.not_and_iff_or_not, Decidable.not_not, Decidable.not_not]

theorem slashed_nil : slashed [] = [] := rfl

theorem slashed_slash (s : List Char) : slashed ('/' :: s) = '\\' :: '/' :: slashed s := rfl

theorem slashed_backslash (s : List Char) : slashed ('\\' :: s) = '\\' :: slashedBehind s := rfl

theorem slashedBehind_cons (c : Char) (s : List Char) :
    slashedBehind (c :: s) = c :: slashed s := rfl

theorem slashed_cons {c : Char} (hc : Kept c) (s : List Char) : slashed (c :: s) = c :: slashed s :=
  SpacingRule.escapeSlashes_cons hc.1 hc.2 s

theorem slashed_cases (s : List Char) :
    s = [] ∨ (∃ u, s = '/' :: u) ∨ (∃ u, s = '\\' :: u) ∨ ∃ c u, Kept c ∧ s = c :: u := by
  cases s with
  | nil => exact Or.inl rfl
  | cons c u =>
      by_cases hslash : c = '/'
      · exact Or.inr (Or.inl ⟨u, by rw [hslash]⟩)
      · by_cases hback : c = '\\'
        · exact Or.inr (Or.inr (Or.inl ⟨u, by rw [hback]⟩))
        · exact Or.inr (Or.inr (Or.inr ⟨c, u, ⟨hslash, hback⟩, rfl⟩))

/-- The texts begin with the same characters, as far as these are kept. -/
theorem slashed_eq_cons {k : Char} (hk : Kept k) {s v : List Char} (h : slashed s = k :: v) :
    ∃ u, s = k :: u ∧ v = slashed u := by
  rcases slashed_cases s with rfl | ⟨u, rfl⟩ | ⟨u, rfl⟩ | ⟨c, u, hc, rfl⟩
  · exact absurd h (List.cons_ne_nil k v).symm
  · exact absurd (List.cons.inj h).1.symm hk.2
  · exact absurd (List.cons.inj h).1.symm hk.2
  · rw [slashed_cons hc] at h
    obtain ⟨rfl, rfl⟩ := List.cons.inj h
    exact ⟨u, rfl, rfl⟩

theorem slashed_eq_nil {s : List Char} (h : slashed s = []) : s = [] := by
  rcases slashed_cases s with rfl | ⟨u, rfl⟩ | ⟨u, rfl⟩ | ⟨c, u, hc, rfl⟩
  · rfl
  · exact absurd h (List.cons_ne_nil _ _)
  · exact absurd h (List.cons_ne_nil _ _)
  · rw [slashed_cons hc] at h
    exact absurd h (List.cons_ne_nil _ _)

/-- What a reader sees that looks for a kept character: there is no more text, or both texts begin
with that character, or both with another one. -/
theorem slashed_next {k : Char} (hk : Kept k) (s : List Char) :
    (s = [] ∧ slashed s = []) ∨ (∃ u, s = k :: u ∧ slashed s = k :: slashed u)
      ∨ Other k s ∧ Other k (slashed s) := by
  by_cases hnil : s = []
  · exact Or.inl ⟨hnil, hnil ▸ slashed_nil⟩
  · by_cases hcons : ∃ u, s = k :: u
    · obtain ⟨u, rfl⟩ := hcons
      exact Or.inr (Or.inl ⟨u, rfl, slashed_cons hk u⟩)
    · refine Or.inr (Or.inr ⟨⟨hnil, fun u hu => hcons ⟨u, hu⟩⟩, mt slashed_eq_nil hnil, ?_⟩)
      intro v hv
      obtain ⟨u, hu, -⟩ := slashed_eq_cons hk hv
      exact hcons ⟨u, hu⟩

variable {f : Flags}

/-! ## Blanks and runs -/

/-- A comment ends at the same place, whether a backslash comes before it or not. -/
theorem dropBlanks_slashed : ∀ (s : List Char),
    dropBlanks false (slashed s) = slashed (dropBlanks false s)
      ∧ dropBlanks true (slashed s) = slashed (dropBlanks true s)
      ∧ dropBlanks true (slashedBehind s) = slashed (dropBlanks true s)
  | [] => ⟨rfl, rfl, rfl⟩
  | c :: s => by
      obtain ⟨hplain, hcomment, hbehind⟩ := dropBlanks_slashed s
      have hnext : dropBlanks (c != '\n') (slashed s) = slashed (dropBlanks true (c :: s)) := by
        rw [dropBlanks]
        cases c != '\n'
        · exact hplain
        · exact hcomment
      rcases slashed_cases (c :: s) with h | ⟨u, h⟩ | ⟨u, h⟩ | ⟨d, u, hc, h⟩
      · exact absurd h (List.cons_ne_nil _ _)
      · obtain ⟨rfl, rfl⟩ := List.cons.inj h
        exact ⟨rfl, hcomment, hcomment⟩
      · obtain ⟨rfl, rfl⟩ := List.cons.inj h
        exact ⟨rfl, hbehind, hcomment⟩
      · obtain ⟨rfl, rfl⟩ := List.cons.inj h
        rw [slashed_cons hc, slashedBehind_cons]
        refine ⟨?_, hnext, hnext⟩
        rw [dropBlanks, dropBlanks]
        split
        · exact hplain
        · split
          · exact hcomment
          · rw [slashed_cons hc]

theorem Flags.skip_slashed (f : Flags) (s : List Char) :
    f.skip (slashed s) = slashed (f.skip s) := by
  unfold Flags.skip
  split
  · exact (dropBlanks_slashed s).1
  · rfl

/-- A text without slashes and backslashes. -/
def Clean (s : List Char) : Prop := ∀ c ∈ s, Kept c

instance (s : List Char) : Decidable (Clean s) := List.decidableBAll Kept s

theorem exists_of_not_clean {s : List Char} (h : ¬ Clean s) : ∃ c ∈ s, c = '/' ∨ c = '\\' := by
  obtain ⟨c, hc, hmarked⟩ : ∃ c ∈ s, ¬ Kept c := by
    simpa [Clean] using h
  exact ⟨c, hc, not_kept_iff.mp hmarked⟩

/-- What a text that is not clean has in it is no part of any name. -/
theorem exists_sign_of_not_clean {s : List Char} (h : ¬ Clean s) :
    ∃ c ∈ s, c.toNat < 0x80 ∧ c.isAlphanum = false ∧ c ∉ [' ', '_', '-', '!', '=', ':'] := by
  obtain ⟨c, hc, rfl | rfl⟩ := exists_of_not_clean h
  · exact ⟨_, hc, by decide⟩
  · exact ⟨_, hc, by decide⟩

theorem takeRun_all (f : Flags) (p : Char → Bool) : ∀ (n : Nat) (s : List Char),
    ∀ c ∈ (takeRun f p n s).1, p c = true
  | 0, s => by cases s <;> simp [takeRun]
  | _ + 1, [] => by simp [takeRun]
  | n + 1, c :: s => by
      rw [takeRun]
      split
      · exact List.forall_mem_cons.mpr ⟨by assumption, takeRun_all f p n (f.skip s)⟩
      · simp

/-- A slash or a backslash is taken into both runs or ends both. -/
private theorem takeRun_slashed_marked {p : Char → Bool} {n n' : Nat} {d e : Char} {u v : List Char}
    (hd : ¬ Kept d) (he : ¬ Kept e) (heq : p e = p d) (hslashed : slashed (d :: u) = e :: v) :
    takeRun f p (n' + 1) (slashed (d :: u)) = slashRest (takeRun f p (n + 1) (d :: u))
      ∨ ¬ Clean (takeRun f p (n + 1) (d :: u)).1
        ∧ ¬ Clean (takeRun f p (n' + 1) (slashed (d :: u))).1 := by
  by_cases hpd : p d = true
  · right
    rw [hslashed, takeRun, if_pos hpd, takeRun, if_pos (heq.trans hpd)]
    exact ⟨fun h => hd (h d List.mem_cons_self), fun h => he (h e List.mem_cons_self)⟩
  · left
    rw [hslashed, takeRun, if_neg (heq ▸ hpd), takeRun, if_neg hpd, slashRest, hslashed]

/-- Of the text with its slashes escaped the same run is taken, or both runs have a slash or a
backslash in them. -/
theorem takeRun_slashed {p : Char → Bool} (hp : p '\\' = p '/') : ∀ {n n' : Nat} {s : List Char},
    s.length ≤ n → (slashed s).length ≤ n' →
      takeRun f p n' (slashed s) = slashRest (takeRun f p n s)
        ∨ ¬ Clean (takeRun f p n s).1 ∧ ¬ Clean (takeRun f p n' (slashed s)).1
  | n, n', [], _, _ => by
      left
      cases n <;> cases n' <;> rfl
  | 0, _, _ :: _, hn, _ => absurd hn (Nat.not_succ_le_zero _)
  | n + 1, 0, c :: s, _, hn' => by
      have hnil := slashed_eq_nil (List.length_eq_zero_iff.mp (Nat.le_zero.mp hn'))
      exact absurd hnil (List.cons_ne_nil _ _)
  | n + 1, n' + 1, c :: s, hn, hn' => by
      rcases slashed_cases (c :: s) with h | ⟨u, h⟩ | ⟨u, h⟩ | ⟨d, u, hd, h⟩
      · exact absurd h (List.cons_ne_nil _ _)
      · rw [h]
        exact takeRun_slashed_marked (by decide) (by decide) hp (slashed_slash u)
      · rw [h]
        exact takeRun_slashed_marked (by decide) (by decide) rfl (slashed_backslash u)
      · obtain ⟨rfl, rfl⟩ := List.cons.inj h
        rw [slashed_cons hd] at hn' ⊢
        rw [List.length_cons] at hn hn'
        have hlen := (f.skip_suffix s).length_le
        have hlen' := (f.skip_suffix (slashed s)).length_le
        rw [f.skip_slashed] at hlen'
        have hskip : (f.skip s).length ≤ n := by omega
        have hskip' : (slashed (f.skip s)).length ≤ n' := by omega
        have ih := takeRun_slashed hp hskip hskip'
        rw [takeRun, takeRun, f.skip_slashed]
        by_cases hpc : p c = true
        · rw [if_pos hpc, if_pos hpc]
          rcases ih with ih | ⟨hrun, hrun'⟩
          · left
            rw [ih]
            rfl
          · exact Or.inr ⟨fun h => hrun fun d hd => h d (List.mem_cons_of_mem c hd),
              fun h => hrun' fun d hd => h d (List.mem_cons_of_mem c hd)⟩
        · rw [if_neg hpc, if_neg hpc]
          left
          rw [slashRest, slashed_cons hd]

theorem takeRun_slashed_of_not {p : Char → Bool} (hslash : p '/' = false) (hback : p '\\' = false)
    {n n' : Nat} {s : List Char} (hn : s.length ≤ n) (hn' : (slashed s).length ≤ n') :
    takeRun f p n' (slashed s) = slashRest (takeRun f p n s) := by
  refine (takeRun_slashed (hback.trans hslash.symm) hn hn').resolve_right fun h => h.1 ?_
  intro c hc
  have hpc := takeRun_all f p n s c hc
  constructor
  · rintro rfl
    exact Bool.false_ne_true (hslash.symm.trans hpc)
  · rintro rfl
    exact Bool.false_ne_true (hback.symm.trans hpc)

/-- Behind a character that was read there is no more text than before it. -/
theorem length_behind {k : Char} (hk : Kept k) {s u : List Char} (h : f.skip s = k :: u) :
    (f.skip u).length ≤ s.length ∧ (slashed (f.skip u)).length ≤ (slashed s).length := by
  have hslashed : f.skip (slashed s) = k :: slashed u := by rw [f.skip_slashed, h, slashed_cons hk]
  rw [← f.skip_slashed]
  exact ⟨((f.skip_suffix u).trans (Flags.tail_suffix_of_skip h)).length_le,
    ((f.skip_suffix _).trans (Flags.tail_suffix_of_skip hslashed)).length_le⟩

/-- Where blanks count, a run is cut off by the first character that does not belong to it. -/
theorem takeRun_plain (hplain : f.skipBlanks = false) (p : Char → Bool) :
    ∀ {n : Nat} {s : List Char}, s.length ≤ n → takeRun f p n s = (s.takeWhile p, s.dropWhile p)
  | n, [], _ => by cases n <;> rfl
  | 0, _ :: _, hn => absurd hn (Nat.not_succ_le_zero _)
  | n + 1, c :: s, hn => by
      have hskip : f.skip s = s := by rw [Flags.skip, hplain]; rfl
      rw [takeRun, hskip, takeRun_plain hplain p (Nat.le_of_succ_le_succ hn)]
      by_cases hc : p c = true
      · rw [if_pos hc, List.takeWhile_cons_of_pos hc, List.dropWhile_cons_of_pos hc]
      · rw [if_neg hc, List.takeWhile_cons_of_neg hc, List.dropWhile_cons_of_neg hc]

theorem span_slashed {p : Char → Bool} (hp : p '\\' = p '/') (s : List Char) :
    ((slashed s).takeWhile p = s.takeWhile p ∧ (slashed s).dropWhile p = slashed (s.dropWhile p))
      ∨ ¬ Clean (s.takeWhile p) ∧ ¬ Clean ((slashed s).takeWhile p) := by
  have htaken := takeRun_slashed (f := .initial false false) hp (Nat.le_refl s.length)
    (Nat.le_refl (slashed s).length)
  rw [takeRun_plain rfl p (Nat.le_refl _), takeRun_plain rfl p (Nat.le_refl _)] at htaken
  exact htaken.imp_left Prod.mk.inj

theorem dropWhile_slashed {p : Char → Bool} (hslash : p '/' = false) (hback : p '\\' = false)
    (s : List Char) : (slashed s).dropWhile p = slashed (s.dropWhile p) := by
  have htaken := takeRun_slashed_of_not (f := .initial false false) hslash hback
    (Nat.le_refl s.length) (Nat.le_refl (slashed s).length)
  rw [takeRun_plain rfl p (Nat.le_refl _), takeRun_plain rfl p (Nat.le_refl _)] at htaken
  exact (Prod.mk.inj htaken).2

theorem takeExactly_slashed {p : Char → Bool} (hslash : p '/' = false) (hback : p '\\' = false) :
    ∀ (n : Nat) (s : List Char),
      takeExactly f p n (slashed s) = (takeExactly f p n s).map slashRest
  | 0, s => rfl
  | n + 1, s => by
      rcases slashed_cases s with rfl | ⟨u, rfl⟩ | ⟨u, rfl⟩ | ⟨c, u, hc, rfl⟩
      · rfl
      · rw [slashed_slash, takeExactly, takeExactly, hslash, hback]
        rfl
      · rw [slashed_backslash, takeExactly, takeExactly, hback]
        rfl
      · rw [slashed_cons hc, takeExactly, takeExactly, f.skip_slashed,
          takeExactly_slashed hslash hback n]
        split
        · rw [Option.map_map, Option.map_map]
          rfl
        · rfl

/-! ## Marks -/

theorem after?_slashed : ∀ {start : List Char}, Clean start → ∀ (s : List Char),
    after? start (slashed s) = (after? start s).map slashed
  | [], _, s => rfl
  | k :: start, h, s => by
      obtain ⟨hk, hstart⟩ := List.forall_mem_cons.mp h
      rcases slashed_cases s with rfl | ⟨u, rfl⟩ | ⟨u, rfl⟩ | ⟨c, u, hc, rfl⟩
      · rfl
      · rw [slashed_slash, after?_cons, after?_cons, if_neg hk.2, if_neg hk.1]
        rfl
      · rw [slashed_backslash, after?_cons, after?_cons, if_neg hk.2, if_neg hk.2]
        rfl
      · rw [slashed_cons hc, after?_cons, after?_cons, after?_slashed hstart]
        split <;> rfl

/-! ## Escapes -/

theorem inBraces_slashed {α : Type} {act : List Char → List Char → Option (α × List Char)}
    {run : List Char} (hact : ∀ rest, act run (slashed rest) = (act run rest).map slashRest)
    (after : List Char) :
    inBraces act (run, slashed after) = (inBraces act (run, after)).map slashRest := by
  rcases slashed_next (k := '\x7d') (by decide) after with ⟨rfl, -⟩ | ⟨u, rfl, h⟩ | ⟨h, h'⟩
  · rfl
  · rw [h]
    exact hact u
  · have hother : ∀ {v : List Char}, Other '\x7d' v → inBraces act (run, v) = none := by
      intro v hv
      unfold inBraces
      split
      · exact absurd (by assumption) (hv.2 _)
      · rfl
    rw [hother h, hother h']
    rfl

theorem bracedCode_slashed (run rest : List Char) :
    bracedCode f run (slashed rest) = (bracedCode f run rest).map slashRest := by
  unfold bracedCode
  split
  · rfl
  · rw [Option.map_map, f.skip_slashed]
    rfl

theorem readCode_slashed (digits : Nat) (s : List Char) :
    readCode f digits (slashed s) = (readCode f digits s).map slashRest := by
  have hskip := f.skip_slashed s
  rcases slashed_next (k := '\x7b') (by decide) (f.skip s) with ⟨h, h'⟩ | ⟨u, h, h'⟩ | ⟨h, h'⟩
  · rw [readCode_end digits (hskip.trans h'), readCode_end digits h]
    rfl
  · have hrest := length_behind (by decide) h
    rw [readCode_brace digits (hskip.trans h'), readCode_brace digits h, f.skip_slashed,
      takeRun_slashed_of_not (by decide) (by decide) hrest.1 hrest.2]
    exact inBraces_slashed (bracedCode_slashed _) _
  · rw [readCode_other digits (hskip ▸ h'), readCode_other digits h, hskip,
      takeExactly_slashed (by decide) (by decide)]
    cases takeExactly f isHexDigit digits (f.skip s) with
    | none => rfl
    | some taken =>
        rw [Option.map_some, codeOfDigits, codeOfDigits, Option.map_map]
        rfl

theorem text_of_cutAt? {mark : List Char} : ∀ {text before after : List Char},
    cutAt? mark text = some (before, after) → text = before ++ (mark ++ after)
  | [], _, _, h => by simp [cutAt?] at h
  | c :: text, before, after, h => by
      rw [cutAt?] at h
      split at h
      · rename_i rest hmark
        obtain ⟨rfl, rfl⟩ := Prod.mk.inj (Option.some.inj h)
        rw [List.nil_append, after?_eq_some.mp hmark]
      · obtain ⟨⟨before', after'⟩, hcut, heq⟩ := Option.map_eq_some_iff.mp h
        obtain ⟨rfl, rfl⟩ := Prod.mk.inj heq
        rw [text_of_cutAt? hcut]
        rfl

/-- A slash or a backslash has no place in the name of a property. -/
theorem propertyIn?_eq_none {text : List Char} (h : ¬ Clean text) : propertyIn? text = none := by
  obtain ⟨c, hc, hascii, hsign, hother⟩ := exists_sign_of_not_clean h
  simp only [List.mem_cons, List.not_mem_nil, or_false, not_or] at hother
  have hcounts : c ∉ [' ', '_', '-'] := by simp [hother]
  have hvalue : ∀ {mark before after : List Char}, cutAt? mark text = some (before, after) →
      c ∉ mark → Unicode.Property.ofNameValue? before after = none := by
    intro mark before after hcut hmark
    refine Unicode.Property.ofNameValue?_eq_none hascii hsign hcounts ?_
    rw [text_of_cutAt? hcut] at hc
    simpa [hmark] using hc
  unfold propertyIn?
  split
  · rw [hvalue (by assumption) (by simp [hother])]
    rfl
  · split
    · rw [hvalue (by assumption) (by simp [hother])]
      rfl
    · split
      · rw [hvalue (by assumption) (by simp [hother])]
        rfl
      · rw [Unicode.Property.ofName?_eq_none hascii hsign hcounts hc]
        rfl

theorem bracedProperty_slashed (negated : Bool) (name rest : List Char) :
    bracedProperty negated name (slashed rest) =
      (bracedProperty negated name rest).map slashRest := by
  rw [bracedProperty, bracedProperty, Option.map_map]
  rfl

theorem inBraces_bracedProperty_eq_none {negated : Bool} {taken : List Char × List Char}
    (h : ¬ Clean taken.1) : inBraces (bracedProperty negated) taken = none := by
  unfold inBraces
  split
  · rw [bracedProperty, propertyIn?_eq_none h]
    rfl
  · rfl

theorem readProperty_slashed (negated : Bool) (s : List Char) :
    readProperty f negated (slashed s) = (readProperty f negated s).map slashRest := by
  have hskip := f.skip_slashed s
  rcases slashed_cases (f.skip s) with h | ⟨u, h⟩ | ⟨u, h⟩ | ⟨c, u, hc, h⟩
  · rw [readProperty_end negated (hskip.trans (h ▸ slashed_nil)), readProperty_end negated h]
    rfl
  · have hnone : Unicode.Property.ofName? ['/'] = none :=
      Unicode.Property.ofName?_eq_none (by decide) (by decide) (by decide) List.mem_cons_self
    rw [h] at hskip
    rw [readProperty_backslash negated hskip, readProperty_letter negated h (by decide) (by decide),
      hnone]
    rfl
  · rw [h] at hskip
    rw [readProperty_backslash negated hskip, readProperty_backslash negated h]
    rfl
  · rw [h, slashed_cons hc] at hskip
    by_cases hbrace : c = '\x7b'
    · subst hbrace
      have hrest := length_behind hc h
      have htaken := takeRun_slashed (f := f) (p := (· != '\x7d')) (by decide) hrest.1 hrest.2
      rw [readProperty_brace negated hskip, readProperty_brace negated h, f.skip_slashed]
      rcases htaken with htaken | ⟨hname, hname'⟩
      · rw [htaken]
        exact inBraces_slashed (bracedProperty_slashed negated _) _
      · rw [inBraces_bracedProperty_eq_none hname, inBraces_bracedProperty_eq_none hname']
        rfl
    · rw [readProperty_letter negated hskip hbrace hc.2, readProperty_letter negated h hbrace hc.2,
        Option.map_map]
      rfl

theorem bracedBoundary_slashed (name rest : List Char) :
    bracedBoundary name (slashed rest) = (bracedBoundary name rest).map slashRest := by
  unfold bracedBoundary
  split <;> rfl

theorem readBoundary_slashed (s : List Char) :
    readBoundary f (slashed s) = (readBoundary f s).map slashRest := by
  rcases slashed_next (k := '\x7b') (by decide) s with ⟨rfl, -⟩ | ⟨u, rfl, h⟩ | ⟨h, h'⟩
  · rfl
  · have hskip := f.skip_slashed u
    have hlen := (f.skip_suffix u).length_le
    have hlen' := (f.skip_suffix (slashed u)).length_le
    rw [hskip] at hlen'
    rw [h, readBoundary_brace, readBoundary_brace, hskip]
    rcases slashed_cases (f.skip u) with hu | ⟨v, hu⟩ | ⟨v, hu⟩ | ⟨c, v, hc, hu⟩
    · rw [hu]
      rfl
    · rw [hu, slashed_slash]
      change some _ = some (_, slashed _)
      rw [h]
    · rw [hu, slashed_backslash]
      change some _ = some (_, slashed _)
      rw [h]
    · rw [hu] at hlen hlen' ⊢
      have htaken := takeRun_slashed_of_not (f := f) (p := isBoundaryNamePart) (by decide)
        (by decide) (Nat.le_succ_of_le hlen) (Nat.le_succ_of_le hlen')
      rw [slashed_cons hc] at htaken ⊢
      dsimp only
      split
      · rw [List.length_cons, List.length_cons, htaken]
        exact inBraces_slashed (bracedBoundary_slashed _) _
      · rw [Option.map_some, slashRest, h]
  · rw [readBoundary_other h.2, readBoundary_other h'.2]
    rfl

theorem EscapeForm.read_slashed (form : EscapeForm) (s : List Char) :
    form.read f (slashed s) = (form.read f s).map slashRest := by
  cases form with
  | code digits => exact readCode_slashed digits s
  | property negated => exact readProperty_slashed negated s
  | boundary => exact readBoundary_slashed s
  | plain e => rfl
  | none => rfl

theorem readEscape_slashed (s : List Char) :
    readEscape f (slashedBehind s) = (readEscape f s).map slashRest := by
  cases s with
  | nil => rfl
  | cons c s =>
      rw [slashedBehind_cons, readEscape_cons, readEscape_cons]
      exact (escapeForm c).read_slashed s

/-- Behind a backslash a slash stands for itself. -/
theorem readEscape_slash (s : List Char) : readEscape f ('/' :: s) = some (.literal '/', s) :=
  readEscape_cons f '/' s

end Gapfill.Pattern
