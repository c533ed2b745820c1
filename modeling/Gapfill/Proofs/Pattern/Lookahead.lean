import Gapfill.Proofs.Pattern.Suffix

/-!
# Readers look no further than they read

Two texts with one beginning in common, behind which `t` and `t'` follow, are
told apart by a reader only if it reads into the part in which they differ. The
relation is `Swap t t'`; each reader has one lemma: if it leaves at least `t` of
the one text, then it reads the same from the other text, and what is left of
the two texts is related again.

Three things look beyond what is read, and each needs a word in the
assumptions. A reader stops at the character behind what it reads, so `t'` may
begin with none that would carry it on (`Behind`). A bracket set is searched for
a class name far behind the set, but no class name contains a closing bracket. A
word boundary peeks behind a brace that comes after it.
-/

namespace Gapfill.Pattern

/-- Two texts with a beginning in common, behind which `t` and `t'` follow. -/
inductive Swap (t t' : List Char) : List Char → List Char → Prop where
  | tail : Swap t t' t t'
  | cons (c : Char) {s s' : List Char} (h : Swap t t' s s') : Swap t t' (c :: s) (c :: s')

/-- What may come in the place of an end `t` of a text: nothing, or a text that begins with a
parenthesis or a bracket. Where comments are passed over, `t` is not empty, as a comment would go on
in what comes in its place. -/
structure Behind (f : Flags) (t t' : List Char) : Prop where
  nonempty : f.skipBlanks = true → t ≠ []
  next : ∀ c u, t' = c :: u → c = ')' ∨ c = '['

namespace Swap

variable {t t' s s' : List Char}

theorem length_le (h : Swap t t' s s') : t.length ≤ s.length := by
  induction h with
  | tail => exact Nat.le_refl _
  | cons c _ ih => exact Nat.le_succ_of_le ih

/-- As long as the end is not reached, the texts have the next character in common. -/
theorem of_cons {c : Char} {u : List Char} (h : Swap t t' (c :: u) s')
    (hu : t.length ≤ u.length) : ∃ u', s' = c :: u' ∧ Swap t t' u u' := by
  cases h with
  | tail => simp only [List.length_cons] at hu; omega
  | cons _ h => exact ⟨_, rfl, h⟩

/-- In front of more than `t` the texts begin with the same character. -/
theorem exists_cons (h : Swap t t' s s') (hs : t.length < s.length) :
    ∃ c u u', s = c :: u ∧ s' = c :: u' ∧ Swap t t' u u' := by
  cases s with
  | nil => simp at hs
  | cons c u =>
      obtain ⟨u', rfl, hu⟩ := h.of_cons (Nat.le_of_lt_succ hs)
      exact ⟨c, u, u', rfl, rfl, hu⟩

/-- A beginning in front of `t` is common to the texts. -/
theorem of_append : ∀ {u : List Char} {v s' : List Char}, Swap t t' (u ++ v) s' →
    t.length ≤ v.length → ∃ v', s' = u ++ v' ∧ Swap t t' v v'
  | [], v, s', h, _ => ⟨s', rfl, h⟩
  | c :: u, v, s', h, hv => by
      obtain ⟨s₁, rfl, h₁⟩ := h.of_cons (Nat.le_trans hv (List.suffix_append u v).length_le)
      obtain ⟨v', rfl, hv'⟩ := of_append h₁ hv
      exact ⟨v', rfl, hv'⟩

theorem append (h : Swap t t' s s') : ∀ u, Swap t t' (u ++ s) (u ++ s')
  | [] => h
  | c :: u => .cons c (append h u)

/-- The texts are related at their ends only if both are at their ends. -/
theorem eq_of_self (h : Swap t t' t s') : s' = t' := by
  cases h with
  | tail => rfl
  | cons c h => have := h.length_le; simp only [List.length_cons] at this; omega

end Swap

variable {t t' s s' z : List Char} {f : Flags}

theorem length_le_of_suffix {u : List Char} (hz : t.length ≤ z.length) (h : z <:+ u) :
    t.length ≤ u.length := Nat.le_trans hz h.length_le

/-- What is read of the one text, with all of `t` left, is read of the other text too, and what is
left of them is related. -/
def ReadAlike (t t' : List Char) {α : Type} (read read' : Option (α × List Char)) : Prop :=
  ∀ (a : α) (z : List Char), read = some (a, z) → t.length ≤ z.length →
    ∃ z', read' = some (a, z') ∧ Swap t t' z z'

namespace ReadAlike

variable {α β : Type} {u u' : List Char} {read read' : Option (α × List Char)}

theorem none : ReadAlike t t' (none : Option (α × List Char)) read' :=
  fun a z hr _ => absurd hr.symm (Option.some_ne_none (a, z))

theorem some (h : t.length ≤ u.length → Swap t t' u u') (a : α) :
    ReadAlike t t' (some (a, u)) (some (a, u')) := by
  intro b z hr hz
  obtain ⟨rfl, rfl⟩ := Prod.mk.inj (Option.some.inj hr)
  exact ⟨u', rfl, h hz⟩

/-- What does not depend on the text is the same in front of both. -/
theorem of_map (h : t.length ≤ u.length → Swap t t' u u') (o : Option β) (g : β → α) :
    ReadAlike t t' (o.map fun b => (g b, u)) (o.map fun b => (g b, u')) := by
  cases o with
  | none => exact .none
  | some b => exact .some h (g b)

theorem made (h : ReadAlike t t' read read') (make : α → Option β) :
    ReadAlike t t' (read.bind fun (a, rest) => (make a).map (·, rest))
      (read'.bind fun (a, rest) => (make a).map (·, rest)) := by
  intro b z hr hz
  obtain ⟨a, hread, hmake⟩ := made_eq_some.mp hr
  obtain ⟨z', hread', hz'⟩ := h _ _ hread hz
  exact ⟨z', made_eq_some.mpr ⟨a, hread', hmake⟩, hz'⟩

end ReadAlike

/-! ## What comes next -/

/-- In front of more than `t` the texts have in common what does not come next. -/
theorem Other.swap {k : Char} (ho : Other k s) (h : Swap t t' s s') (hs : t.length < s.length) :
    Other k s' := by
  obtain ⟨c, u, u', rfl, rfl, -⟩ := h.exists_cons hs
  exact ⟨List.cons_ne_nil c u', fun v hv => ho.2 u (by rw [(List.cons.inj hv).1])⟩

/-- A sign other than a parenthesis or a bracket that does not come next in the one text does not
come next in the other. -/
theorem Swap.not_next (hb : Behind f t t') (h : Swap t t' s s') {c : Char} (hc : c ≠ ')' ∧ c ≠ '[')
    (hs : ∀ u, s ≠ c :: u) : ∀ u, s' ≠ c :: u := by
  rintro u rfl
  cases h with
  | tail =>
      rcases hb.next c u rfl with rfl | rfl
      · exact hc.1 rfl
      · exact hc.2 rfl
  | cons d h => exact hs _ rfl

theorem after?_swap {mark u : List Char} (h : Swap t t' s s') (hafter : after? mark s = some u)
    (hu : t.length ≤ u.length) : ∃ u', after? mark s' = some u' ∧ Swap t t' u u' := by
  obtain rfl := after?_eq_some.mp hafter
  obtain ⟨u', rfl, hs⟩ := h.of_append hu
  exact ⟨u', after?_eq_some.mpr rfl, hs⟩

/-- A mark that does not come next in the one text does not come next in the other. -/
theorem after?_none_swap (hb : Behind f t t') : ∀ {mark s s' : List Char},
    (∀ c ∈ mark, c ≠ ')' ∧ c ≠ '[') → Swap t t' s s' → after? mark s = none →
      after? mark s' = none
  | [], s, _, _, _, hnone => by simp [after?] at hnone
  | _ :: _, _, [], _, _, _ => rfl
  | k :: mark, s, c :: u', hmark, h, hnone => by
      rw [after?_cons]
      split
      · rename_i hk
        subst hk
        cases h with
        | tail =>
            rcases hb.next k u' rfl with rfl | rfl
            · exact absurd rfl (hmark _ List.mem_cons_self).1
            · exact absurd rfl (hmark _ List.mem_cons_self).2
        | cons _ h =>
            rw [after?_cons, if_pos rfl] at hnone
            exact after?_none_swap hb (fun d hd => hmark d (List.mem_cons_of_mem k hd)) h hnone
      · rfl

/-! ## Blanks and runs -/

private theorem Behind.dropBlanks_eq (hb : Behind f t t') : dropBlanks false t' = t' := by
  cases t' with
  | nil => rfl
  | cons c u => rcases hb.next c u rfl with rfl | rfl <;> rfl

theorem dropBlanks_swap (hf : f.skipBlanks = true) (hb : Behind f t t') (h : Swap t t' s s') :
    ∀ {b : Bool}, t.length ≤ (dropBlanks b s).length →
      Swap t t' (dropBlanks b s) (dropBlanks b s') := by
  induction h with
  | tail =>
      intro b hz
      cases b with
      | false =>
          rw [(dropBlanks_suffix false t).eq_of_length_le hz, hb.dropBlanks_eq]
          exact .tail
      | true =>
          -- a comment would swallow the first character of `t`
          obtain ⟨c, u, rfl⟩ := List.exists_cons_of_ne_nil (hb.nonempty hf)
          have := (dropBlanks_suffix (c != '\n') u).length_le
          rw [dropBlanks, List.length_cons] at hz
          omega
  | cons c h ih =>
      intro b hz
      cases b with
      | true => exact ih hz
      | false =>
          rw [dropBlanks] at hz ⊢
          rw [dropBlanks]
          split
          · rw [if_pos (by assumption)] at hz
            exact ih hz
          · rw [if_neg (by assumption)] at hz
            split
            · rw [if_pos (by assumption)] at hz
              exact ih hz
            · exact .cons c h

theorem Flags.skip_swap (hb : Behind f t t') (h : Swap t t' s s')
    (hz : t.length ≤ (f.skip s).length) : Swap t t' (f.skip s) (f.skip s') := by
  unfold Flags.skip at hz ⊢
  split
  · rw [if_pos (by assumption)] at hz
    exact dropBlanks_swap (by assumption) hb h hz
  · exact h

/-- The same where a character with more behind it than `t` comes next. -/
theorem Flags.skip_swap_cons (hb : Behind f t t') (h : Swap t t' s s') {c : Char} {u : List Char}
    (hskip : f.skip s = c :: u) (hu : t.length ≤ u.length) :
    ∃ u', f.skip s' = c :: u' ∧ Swap t t' u u' := by
  have hs := Flags.skip_swap (f := f) hb h (by rw [hskip]; exact Nat.le_succ_of_le hu)
  rw [hskip] at hs
  exact hs.of_cons hu

theorem dropWhile_swap {p : Char → Bool} (h : Swap t t' s s')
    (hz : t.length < (s.dropWhile p).length) :
    s'.takeWhile p = s.takeWhile p ∧ Swap t t' (s.dropWhile p) (s'.dropWhile p) := by
  induction h with
  | tail => exact absurd (List.dropWhile_suffix (l := t) p).length_le (Nat.not_le_of_lt hz)
  | cons c h ih =>
      by_cases hp : p c = true
      · simp only [List.dropWhile_cons_of_pos hp, List.takeWhile_cons_of_pos hp] at hz ⊢
        exact ⟨by rw [(ih hz).1], (ih hz).2⟩
      · simp only [List.dropWhile_cons_of_neg hp, List.takeWhile_cons_of_neg hp]
        exact ⟨trivial, .cons c h⟩

theorem takeRun_swap (hb : Behind f t t') {p : Char → Bool} : ∀ {n n' : Nat} {s s' : List Char},
    Swap t t' s s' → s.length ≤ n → s'.length ≤ n' → t.length < (takeRun f p n s).2.length →
      (takeRun f p n' s').1 = (takeRun f p n s).1
        ∧ Swap t t' (takeRun f p n s).2 (takeRun f p n' s').2
  | 0, n', s, s', h, hn, hn', hz => by
      rw [List.length_eq_zero_iff.mp (Nat.le_zero.mp hn)] at hz
      exact absurd hz (Nat.not_lt_zero _)
  | n + 1, n', s, s', h, hn, hn', hz => by
      obtain ⟨c, u, u', rfl, rfl, hu⟩ :=
        h.exists_cons (Nat.lt_of_lt_of_le hz (takeRun_suffix f p _ s).length_le)
      obtain ⟨m, rfl⟩ : ∃ m, n' = m + 1 := ⟨n' - 1, by simp at hn'; omega⟩
      rw [List.length_cons] at hn hn'
      by_cases hp : p c = true
      · simp only [takeRun, if_pos hp] at hz ⊢
        have hskip := Nat.lt_of_lt_of_le hz (takeRun_suffix f p n _).length_le
        have hlen := (f.skip_suffix u).length_le
        have hlen' := (f.skip_suffix u').length_le
        obtain ⟨hrun, hrest⟩ := takeRun_swap hb (Flags.skip_swap hb hu (Nat.le_of_lt hskip))
          (Nat.le_trans hlen (Nat.le_of_succ_le_succ hn))
          (Nat.le_trans hlen' (Nat.le_of_succ_le_succ hn')) hz
        exact ⟨by rw [hrun], hrest⟩
      · simp only [takeRun, if_neg hp]
        exact ⟨trivial, .cons c hu⟩

theorem takeExactly_swap (hb : Behind f t t') {p : Char → Bool} : ∀ {n : Nat} {s s' : List Char},
    Swap t t' s s' → ReadAlike t t' (takeExactly f p n s) (takeExactly f p n s')
  | 0, s, s', h => .some (fun _ => h) []
  | n + 1, [], s', h => .none
  | n + 1, c :: s, s', h => by
      intro run z hr hz
      rw [takeExactly] at hr
      split at hr
      · rename_i hp
        obtain ⟨⟨run₁, z₁⟩, hr₁, heq⟩ := Option.map_eq_some_iff.mp hr
        obtain ⟨rfl, rfl⟩ := Prod.mk.inj heq
        have hskip := length_le_of_suffix hz (takeExactly_suffix hr₁)
        obtain ⟨s₁, rfl, h₁⟩ := h.of_cons (length_le_of_suffix hskip (f.skip_suffix s))
        obtain ⟨z', hz', hswap⟩ :=
          takeExactly_swap hb (Flags.skip_swap (f := f) hb h₁ hskip) run₁ z₁ hr₁ hz
        exact ⟨z', by rw [takeExactly, if_pos hp, hz']; rfl, hswap⟩
      · simp at hr

/-! ## Escapes -/

/-- What stands in braces is read alike, whatever is made of it. -/
theorem inBraces_swap {α : Type} (act : List Char → List Char → Option (α × List Char))
    (hb : Behind f t t') (hsuffix : ∀ run u a z, act run u = some (a, z) → z <:+ u)
    (hact : ∀ run {u u'}, Swap t t' u u' → ReadAlike t t' (act run u) (act run u'))
    {p : Char → Bool} {n n' : Nat} (h : Swap t t' s s') (hn : s.length ≤ n) (hn' : s'.length ≤ n') :
    ReadAlike t t' (inBraces act (takeRun f p n (f.skip s)))
      (inBraces act (takeRun f p n' (f.skip s'))) := by
  intro a z hr hz
  obtain ⟨v, hv, ha⟩ := inBraces_eq_some hr
  have hvlen := length_le_of_suffix hz (hsuffix _ _ _ _ ha)
  have hlen : t.length < (takeRun f p n (f.skip s)).2.length := by
    rw [hv]
    exact Nat.lt_succ_of_le hvlen
  have hskip := Nat.lt_of_lt_of_le hlen (takeRun_suffix f p _ _).length_le
  obtain ⟨hname, hs⟩ := takeRun_swap hb (Flags.skip_swap hb h (Nat.le_of_lt hskip))
    (Nat.le_trans (f.skip_suffix s).length_le hn) (Nat.le_trans (f.skip_suffix s').length_le hn')
    hlen
  rw [hv] at hs
  obtain ⟨v', hv', hs'⟩ := hs.of_cons hvlen
  obtain ⟨z', ha', hz'⟩ := hact _ hs' a z ha hz
  refine ⟨z', ?_, hz'⟩
  unfold inBraces
  rw [hv', hname]
  exact ha'

theorem bracedCode_swap (hb : Behind f t t') {run : List Char} (h : Swap t t' s s') :
    ReadAlike t t' (bracedCode f run s) (bracedCode f run s') := by
  unfold bracedCode
  split
  · exact .none
  · exact .of_map (Flags.skip_swap hb h) _ _

theorem readCode_swap (hb : Behind f t t') {digits : Nat} (hd : digits ≠ 0)
    (h : Swap t t' s s') : ReadAlike t t' (readCode f digits s) (readCode f digits s') := by
  intro e z hr hz
  rcases next_cases '\x7b' (f.skip s) with hend | ⟨u, hu⟩ | hother
  · simp [readCode_end digits hend] at hr
  · rw [readCode_brace digits hu] at hr
    have hlen := length_le_of_suffix hz
      ((inBraces_suffix bracedCode_suffix hr).trans (takeRun_skip_suffix f _ _ u))
    obtain ⟨u', hu', hs⟩ := Flags.skip_swap_cons hb h hu hlen
    rw [readCode_brace digits hu']
    exact inBraces_swap (bracedCode f) hb (fun _ _ _ _ => bracedCode_suffix)
      (fun _ => bracedCode_swap hb) hs (Flags.tail_suffix_of_skip hu).length_le
      (Flags.tail_suffix_of_skip hu').length_le e z hr hz
  · rw [readCode_other digits hother, codeOfDigits_eq] at hr
    -- at least one digit was read, so the texts agree on their first character
    obtain ⟨run, hrun, -⟩ := made_eq_some.mp hr
    have hlen := Nat.lt_of_le_of_lt hz (takeExactly_shorter hd hrun)
    have hs := Flags.skip_swap (f := f) hb h (Nat.le_of_lt hlen)
    rw [readCode_other digits (hother.swap hs hlen), codeOfDigits_eq]
    exact (takeExactly_swap hb hs).made _ e z hr hz

theorem readProperty_swap (hb : Behind f t t') {negated : Bool} (h : Swap t t' s s') :
    ReadAlike t t' (readProperty f negated s) (readProperty f negated s') := by
  intro e z hr hz
  rcases hskip : f.skip s with _ | ⟨c, u⟩
  · simp [readProperty_end negated hskip] at hr
  by_cases hbrace : c = '\x7b'
  · subst hbrace
    rw [readProperty_brace negated hskip] at hr
    have hlen := length_le_of_suffix hz
      ((inBraces_suffix bracedProperty_suffix hr).trans (takeRun_skip_suffix f _ _ u))
    obtain ⟨u', hskip', hu⟩ := Flags.skip_swap_cons hb h hskip hlen
    rw [readProperty_brace negated hskip']
    exact inBraces_swap (bracedProperty negated) hb (fun _ _ _ _ => bracedProperty_suffix)
      (fun _ _ _ hs => .of_map (fun _ => hs) _ _) hu (Flags.tail_suffix_of_skip hskip).length_le
      (Flags.tail_suffix_of_skip hskip').length_le e z hr hz
  by_cases hback : c = '\\'
  · subst hback
    simp [readProperty_backslash negated hskip] at hr
  · rw [readProperty_letter negated hskip hbrace hback] at hr
    obtain ⟨p, -, heq⟩ := Option.map_eq_some_iff.mp hr
    obtain ⟨-, rfl⟩ := Prod.mk.inj heq
    obtain ⟨u', hskip', hu⟩ := Flags.skip_swap_cons hb h hskip hz
    rw [readProperty_letter negated hskip' hbrace hback]
    exact ReadAlike.of_map (fun _ => hu) _ _ e u hr hz

theorem bracedBoundary_swap {name : List Char} (h : Swap t t' s s') :
    ReadAlike t t' (bracedBoundary name s) (bracedBoundary name s') := by
  unfold bracedBoundary
  split
  case h_5 => exact .none
  all_goals exact .some (fun _ => h) _

/-- A word boundary looks behind a brace that follows it, without reading either. -/
theorem readBoundary_swap (hb : Behind f t t') {e : Escape} (h : Swap t t' s s')
    (hr : readBoundary f s = some (e, z)) (hz : t.length ≤ z.length)
    (hpeek : e = .wordBoundary → ∀ u, z = '\x7b' :: u → t.length < (f.skip u).length) :
    ∃ z', readBoundary f s' = some (e, z') ∧ Swap t t' z z' := by
  by_cases hbrace : ∃ u, s = '\x7b' :: u
  · obtain ⟨u, rfl⟩ := hbrace
    rw [readBoundary_brace] at hr
    rcases hskip : f.skip u with _ | ⟨c, v⟩
    · simp [hskip] at hr
    rw [hskip] at hr
    dsimp only at hr
    split at hr
    · rename_i hname
      rw [← hskip] at hr
      obtain ⟨w, hw, hbound⟩ := inBraces_eq_some hr
      have hlen := (takeRun_suffix f isBoundaryNamePart ('\x7b' :: u).length (f.skip u)).length_le
      rw [hw, hskip, List.length_cons, List.length_cons] at hlen
      have hv := Nat.le_trans (length_le_of_suffix hz (bracedBoundary_suffix hbound))
        (Nat.le_of_succ_le_succ hlen)
      obtain ⟨u', rfl, hu⟩ :=
        h.of_cons (Nat.le_trans hv (Flags.tail_suffix_of_skip hskip).length_le)
      obtain ⟨v', hskip', -⟩ := Flags.skip_swap_cons hb hu hskip hv
      obtain ⟨z', hr', hz'⟩ := inBraces_swap bracedBoundary hb
        (fun _ _ _ _ => bracedBoundary_suffix) (fun _ => bracedBoundary_swap) hu
        (Nat.le_succ u.length) (Nat.le_succ u'.length) e z hr hz
      refine ⟨z', ?_, hz'⟩
      rw [hskip'] at hr'
      rw [readBoundary_brace, hskip']
      exact (if_pos hname).trans hr'
    · rename_i hname
      obtain ⟨rfl, rfl⟩ := Prod.mk.inj (Option.some.inj hr)
      have hsu := hpeek rfl u rfl
      obtain ⟨u', rfl, hu⟩ :=
        h.of_cons (Nat.le_trans (Nat.le_of_lt hsu) (f.skip_suffix u).length_le)
      obtain ⟨v', hskip', -⟩ := Flags.skip_swap_cons (f := f) hb hu hskip
        (Nat.le_of_lt_succ (by rwa [hskip] at hsu))
      refine ⟨'\x7b' :: u', ?_, .cons _ hu⟩
      rw [readBoundary_brace, hskip']
      exact if_neg hname
  · have hother : ∀ u, s ≠ '\x7b' :: u := fun u hu => hbrace ⟨u, hu⟩
    rw [readBoundary_other hother] at hr
    rw [readBoundary_other (h.not_next hb (by decide) hother)]
    exact ReadAlike.some (fun _ => h) _ e z hr hz

theorem EscapeForm.read_swap (hb : Behind f t t') {form : EscapeForm} (hform : form ≠ .code 0)
    {e : Escape} (h : Swap t t' s s') (hr : form.read f s = some (e, z)) (hz : t.length ≤ z.length)
    (hpeek : e = .wordBoundary → ∀ u, z = '\x7b' :: u → t.length < (f.skip u).length) :
    ∃ z', form.read f s' = some (e, z') ∧ Swap t t' z z' := by
  cases form with
  | code digits => exact readCode_swap hb (fun h0 => hform (by rw [h0])) h e z hr hz
  | property negated => exact readProperty_swap hb h e z hr hz
  | boundary => exact readBoundary_swap hb h hr hz hpeek
  | plain e =>
      obtain ⟨rfl, rfl⟩ := Prod.mk.inj (Option.some.inj hr)
      exact ⟨s', rfl, h⟩
  | none => simp [EscapeForm.read] at hr

private theorem escapeForm_ne_code_zero (c : Char) : escapeForm c ≠ .code 0 := by
  unfold escapeForm
  split
  case h_18 => split <;> (try split) <;> simp
  all_goals simp

theorem readEscape_swap (hb : Behind f t t') {e : Escape} (h : Swap t t' s s')
    (hr : readEscape f s = some (e, z)) (hz : t.length ≤ z.length)
    (hpeek : e = .wordBoundary → ∀ u, z = '\x7b' :: u → t.length < (f.skip u).length) :
    ∃ z', readEscape f s' = some (e, z') ∧ Swap t t' z z' := by
  obtain ⟨c, u, rfl, hu⟩ := readEscape_suffix hr
  obtain ⟨u', rfl, hu'⟩ := h.of_cons (length_le_of_suffix hz hu)
  rw [readEscape_cons] at hr ⊢
  exact EscapeForm.read_swap hb (escapeForm_ne_code_zero c) hu' hr hz hpeek

end Gapfill.Pattern
