import Gapfill.Proofs.Pattern.SetLookahead

/-!
# Items of a pattern read no further than they read

The lemmas of `Gapfill.Proofs.Pattern.Lookahead` for the starts of groups and
for repetitions, and from all of them the lemma for one item
(`nextMove_swap`): a reader in front of one of two texts with a common
beginning takes the same step in front of the other (`Reader.step_swap`).
-/

namespace Gapfill.Pattern

variable {t t' s s' z : List Char} {f : Flags} {names : List (List Char)}

/-! ## Groups -/

theorem readName_swap (h : Swap t t' s s') : ReadAlike t t' (readName s) (readName s') := by
  intro name z hr hz
  rw [readName_eq] at hr ⊢
  obtain ⟨d, hrest, hname⟩ := nameIn_eq_some hr
  obtain ⟨htake, hdrop⟩ := dropWhile_swap h (by rw [hrest]; exact Nat.lt_succ_of_le hz)
  rw [hrest] at hdrop
  obtain ⟨z', hrest', hz'⟩ := hdrop.of_cons hz
  exact ⟨z', by rw [htake, hrest', hname], hz'⟩

theorem readSwitches_swap {f' : Flags} {bare : Bool} : ∀ {seen : List Char} {on waits : Bool}
    {f : Flags} {s s' : List Char} {c : Char}, Swap t t' s s' →
    readSwitches seen on waits f s = some (f', bare, c :: z) → t.length ≤ z.length →
      ∃ z', readSwitches seen on waits f s' = some (f', bare, c :: z') ∧ Swap t t' z z'
  | _, _, _, _, [], _, _, _, hr, _ => by simp [readSwitches] at hr
  | seen, on, waits, f, d :: s, s', c, h, hr, hz => by
      have hlen := (readSwitches_suffix hr).length_le
      simp only [List.length_cons] at hlen
      obtain ⟨u, rfl, hu⟩ := h.of_cons (by omega)
      rw [readSwitches] at hr ⊢
      split at hr
      · rename_i hend
        rw [if_pos hend]
        split at hr
        · simp at hr
        · rename_i hwaits
          simp only [Option.some.injEq, Prod.mk.injEq, List.cons.injEq] at hr
          obtain ⟨rfl, rfl, rfl, rfl⟩ := hr
          exact ⟨u, by rw [if_neg hwaits], hu⟩
      · rename_i hend
        rw [if_neg hend]
        split at hr
        · simp at hr
        · rename_i hseen
          rw [if_neg hseen]
          split at hr
          · rename_i hminus
            rw [if_pos hminus]
            exact readSwitches_swap hu hr hz
          · rename_i hminus
            rw [if_neg hminus]
            split at hr
            · exact readSwitches_swap hu hr hz
            · simp at hr

theorem Move.named_swap (h : Swap t t' s s') :
    ReadAlike t t' (Move.named f names s) (Move.named f names s') := by
  intro m z hr hz
  unfold Move.named at hr
  split at hr
  · rename_i name u hname
    split at hr
    · simp at hr
    · rename_i hnew
      obtain ⟨rfl, rfl⟩ := Prod.mk.inj (Option.some.inj hr)
      obtain ⟨z', hname', hz'⟩ := readName_swap h _ _ hname hz
      exact ⟨z', by simp only [Move.named, hname', if_neg hnew], hz'⟩
  · simp at hr

theorem Move.switches_swap (h : Swap t t' s s') :
    ReadAlike t t' (Move.switches f names s) (Move.switches f names s') := by
  intro m z hr hz
  unfold Move.switches at hr
  split at hr
  · rename_i hread
    obtain ⟨rfl, rfl⟩ := Prod.mk.inj (Option.some.inj hr)
    obtain ⟨z', hread', hz'⟩ := readSwitches_swap h hread hz
    exact ⟨z', by simp only [Move.switches, hread'], hz'⟩
  · simp at hr
  · rename_i c _ hcolon hread
    obtain ⟨rfl, rfl⟩ := Prod.mk.inj (Option.some.inj hr)
    obtain ⟨z', hread', hz'⟩ := readSwitches_swap h hread hz
    refine ⟨z', ?_, hz'⟩
    simp only [Move.switches, hread']
  · simp at hr

/-- The marks behind a parenthesis are told apart in front of both texts alike. -/
theorem Move.groupAt_swap (hb : Behind f t t') (h : Swap t t' s s') :
    ReadAlike t t' (Move.groupAt f names s) (Move.groupAt f names s') := by
  have hmark : ∀ {mark u z}, z <:+ u → t.length ≤ z.length → after? mark s = some u →
      ∃ u', after? mark s' = some u' ∧ Swap t t' u u' := fun hz hlen hu =>
    after?_swap h hu (length_le_of_suffix hlen hz)
  intro m z hr hz
  unfold Move.groupAt at hr ⊢
  split at hr
  · rename_i u hu
    obtain ⟨u', hu', hs⟩ := hmark (Move.named_suffix hr) hz hu
    rw [hu']
    exact Move.named_swap hs m z hr hz
  · rename_i hnamed
    rw [after?_none_swap hb (by simp) h hnamed]
    split at hr
    · rename_i u hu
      split at hr
      · rename_i hassert
        obtain ⟨u', hu', hs⟩ := hmark (Move.named_suffix hr) hz hu
        have hassert' := hassert.imp (after?_none_swap hb (by simp) hs)
          (after?_none_swap hb (by simp) hs)
        simp only [hu', if_pos hassert']
        exact Move.named_swap hs m z hr hz
      · simp at hr
    · rename_i hangle
      rw [after?_none_swap hb (by simp) h hangle]
      split at hr
      · rename_i u hu
        obtain ⟨u', hu', hs⟩ := hmark (Move.switches_suffix hr) hz hu
        simp only [hu']
        exact Move.switches_swap hs m z hr hz
      · rename_i hquestion
        rw [after?_none_swap hb (by simp) h hquestion]
        exact ReadAlike.some (fun _ => h) _ m z hr hz

theorem Move.group_swap (hb : Behind f t t') (h : Swap t t' s s') :
    ReadAlike t t' (Move.group f names s) (Move.group f names s') := by
  intro m z hr hz
  rw [Move.group_eq] at hr ⊢
  exact Move.groupAt_swap hb
    (Flags.skip_swap hb h (length_le_of_suffix hz (Move.groupAt_suffix hr))) m z hr hz

/-! ## Repetitions -/

theorem behindCount_swap (hb : Behind f t t') (h : Swap t t' s s')
    (hz : t.length < (behindCount f s).length) :
    Swap t t' (behindCount f s) (behindCount f s') := by
  obtain ⟨c, u, u', rfl, rfl, hu⟩ :=
    h.exists_cons (Nat.lt_of_lt_of_le hz (behindCount_suffix f s).length_le)
  unfold behindCount at hz ⊢
  rw [List.head?_cons] at hz ⊢
  rw [List.head?_cons]
  split
  · rename_i hblank
    rw [if_pos hblank] at hz
    exact Flags.skip_swap hb
      (dropWhile_swap h (Nat.lt_of_lt_of_le hz (f.skip_suffix _).length_le)).2 (Nat.le_of_lt hz)
  · exact h

/-- A count stops in front of more than `t`. -/
theorem readCount_swap (hb : Behind f t t') {n : Nat} (h : Swap t t' s s')
    (hr : readCount f s = some (n, z)) (hz : t.length < z.length) :
    ∃ z', readCount f s' = some (n, z') ∧ Swap t t' z z' := by
  rw [readCount_eq] at hr ⊢
  dsimp only at hr ⊢
  split at hr
  · simp at hr
  · rename_i hok
    obtain ⟨rfl, rfl⟩ := Prod.mk.inj (Option.some.inj hr)
    have hrun := Nat.lt_of_lt_of_le hz (behindCount_suffix f _).length_le
    have hdrop := Nat.lt_of_lt_of_le hrun (takeRun_suffix f _ _ _).length_le
    have hlen := (List.dropWhile_suffix (l := s) isBlank).length_le
    have hlen' := (List.dropWhile_suffix (l := s') isBlank).length_le
    obtain ⟨hdigits, hs⟩ := takeRun_swap hb (dropWhile_swap h hdrop).2 hlen hlen' hrun
    exact ⟨_, by rw [hdigits, if_neg hok], behindCount_swap hb hs hz⟩

theorem upperBound_swap (hb : Behind f t t') {low min : Nat} {max : Option Nat}
    (h : Swap t t' s s') (hr : upperBound f low s = some (min, max, z)) (hz : t.length ≤ z.length) :
    ∃ z', upperBound f low s' = some (min, max, z') ∧ Swap t t' z z' := by
  unfold upperBound at hr ⊢
  split at hr
  · rename_i u hbrace
    simp only [Option.some.injEq, Prod.mk.injEq] at hr
    obtain ⟨rfl, rfl, rfl⟩ := hr
    obtain ⟨z', hbrace', hz'⟩ := after?_swap h hbrace hz
    exact ⟨z', by rw [hbrace'], hz'⟩
  · rename_i hbrace
    rw [after?_none_swap hb (by simp) h hbrace]
    obtain ⟨⟨high, u⟩, hhigh, hclose⟩ := Option.bind_eq_some_iff.mp hr
    dsimp only at hclose
    split at hclose
    · rename_i hle
      obtain ⟨v, hv, heq⟩ := Option.map_eq_some_iff.mp hclose
      simp only [Prod.mk.injEq] at heq
      obtain ⟨rfl, rfl, rfl⟩ := heq
      obtain ⟨u', hhigh', hs⟩ := readCount_swap hb h hhigh (by
        rw [after?_eq_some.mp hv]
        exact Nat.lt_succ_of_le hz)
      obtain ⟨z', hv', hz'⟩ := after?_swap hs hv hz
      exact ⟨z', by simp only [hhigh', Option.bind_some, if_pos hle, hv', Option.map_some], hz'⟩
    · simp at hclose

theorem boundsBehind_swap (hb : Behind f t t') {low min : Nat} {max : Option Nat}
    (h : Swap t t' s s') (hr : boundsBehind f low s = some (min, max, z))
    (hz : t.length ≤ z.length) :
    ∃ z', boundsBehind f low s' = some (min, max, z') ∧ Swap t t' z z' := by
  unfold boundsBehind at hr ⊢
  split at hr
  · rename_i u hcomma
    have hskip := length_le_of_suffix (Nat.le_trans hz (Nat.le_succ _)) (upperBound_suffix hr)
    obtain ⟨u', hcomma', hs⟩ :=
      after?_swap h hcomma (length_le_of_suffix hskip (f.skip_suffix u))
    rw [hcomma']
    exact upperBound_swap hb (Flags.skip_swap hb hs hskip) hr hz
  · rename_i hcomma
    rw [after?_none_swap hb (by simp) h hcomma]
    obtain ⟨v, hv, heq⟩ := Option.map_eq_some_iff.mp hr
    simp only [Prod.mk.injEq] at heq
    obtain ⟨rfl, rfl, rfl⟩ := heq
    obtain ⟨z', hv', hz'⟩ := after?_swap h hv hz
    exact ⟨z', by rw [hv']; rfl, hz'⟩

theorem readBounds_swap (hb : Behind f t t') {min : Nat} {max : Option Nat} (h : Swap t t' s s')
    (hr : readBounds f s = some (min, max, z)) (hz : t.length ≤ z.length) :
    ∃ z', readBounds f s' = some (min, max, z') ∧ Swap t t' z z' := by
  rw [readBounds_eq] at hr ⊢
  obtain ⟨⟨low, u⟩, hlow, hbounds⟩ := Option.bind_eq_some_iff.mp hr
  have hu := Nat.lt_of_lt_of_le (Nat.lt_succ_of_le hz) (boundsBehind_suffix hbounds).length_le
  have hskip := Nat.le_trans (Nat.le_of_lt hu) (readCount_suffix hlow).length_le
  obtain ⟨u', hlow', hs⟩ := readCount_swap hb (Flags.skip_swap hb h hskip) hlow hu
  rw [hlow']
  exact boundsBehind_swap hb hs hbounds hz

theorem dropLazy_swap (hb : Behind f t t') (h : Swap t t' s s')
    (hz : t.length ≤ (dropLazy s).length) : Swap t t' (dropLazy s) (dropLazy s') := by
  by_cases hlazy : ∃ u, s = '?' :: u
  · obtain ⟨u, rfl⟩ := hlazy
    obtain ⟨u', rfl, hu⟩ := h.of_cons hz
    exact hu
  · have hstay : ∀ {u : List Char}, (∀ v, u ≠ '?' :: v) → dropLazy u = u := by
      intro u hu
      unfold dropLazy
      split
      · exact absurd rfl (hu _)
      · rfl
    have hs : ∀ u, s ≠ '?' :: u := fun u hu => hlazy ⟨u, hu⟩
    rw [hstay hs, hstay (h.not_next hb (by decide) hs)]
    exact h

/-! ## Items -/

/-- One item asks for the same move in front of two texts with a common beginning, if what is left
of the one is all of `t` at least. A word boundary also looks behind a brace. -/
theorem nextMove_swap (hb : Behind f t t') {c : Char} {m : Move} (h : Swap t t' s s')
    (hr : nextMove f names c s = some (m, z)) (hz : t.length ≤ z.length)
    (hpeek : ∀ regex, m = .add f regex → ∀ u, z = '\x7b' :: u → t.length < (f.skip u).length) :
    ∃ z', nextMove f names c s' = some (m, z') ∧ Swap t t' z z' := by
  have hlazy : ∀ {u u' : List Char} {m' : Move}, Swap t t' u u' →
      ReadAlike t t' (some (m', dropLazy u)) (some (m', dropLazy u')) := fun hs =>
    .some (dropLazy_swap hb hs) _
  unfold nextMove at hr ⊢
  split at hr
  case h_1 => exact Move.group_swap hb h m z hr hz
  case h_4 =>
      obtain ⟨⟨piece, u⟩, hset, heq⟩ := Option.map_eq_some_iff.mp hr
      obtain ⟨rfl, rfl⟩ := Prod.mk.inj heq
      have hlen := Nat.lt_of_lt_of_le (Nat.lt_succ_of_le hz) (readSet_closes hset).length_le
      obtain ⟨hframe, hs⟩ := openSet_swap hb h hlen
      obtain ⟨u', hset', hu⟩ := readSet_swap hb _ _ _ _ hs (Nat.lt_succ_self _) _ _ hset hz
      exact ⟨u', by simp only [hframe, hset', Option.map_some], hu⟩
  case h_5 => exact hlazy h m z hr hz
  case h_6 => exact hlazy h m z hr hz
  case h_7 => exact hlazy h m z hr hz
  case h_8 =>
      obtain ⟨⟨min, max, u⟩, hbounds, heq⟩ := Option.map_eq_some_iff.mp hr
      obtain ⟨rfl, rfl⟩ := Prod.mk.inj heq
      have hskip := length_le_of_suffix hz (dropLazy_suffix (f.skip u))
      obtain ⟨u', hbounds', hu⟩ :=
        readBounds_swap hb h hbounds (length_le_of_suffix hskip (f.skip_suffix u))
      rw [hbounds']
      exact hlazy (Flags.skip_swap hb hu hskip) _ _ rfl hz
  case h_9 => exact ReadAlike.of_map (fun _ => h) _ _ m z hr hz
  case h_12 =>
      split at hr
      · rename_i escape u hescape
        obtain ⟨regex, hregex, heq⟩ := Option.map_eq_some_iff.mp hr
        obtain ⟨rfl, rfl⟩ := Prod.mk.inj heq
        obtain ⟨u', hescape', hu⟩ :=
          readEscape_swap hb h hescape hz fun _ => hpeek regex rfl
        exact ⟨u', by simp only [hescape', hregex, Option.map_some], hu⟩
      · simp at hr
  all_goals exact ReadAlike.some (fun _ => h) _ m z hr hz

theorem Reader.step_swap {r r' : Reader} (hb : Behind r.flags t t') {c : Char} (h : Swap t t' s s')
    (hr : r.step c s = some (r', z)) (hz : t.length ≤ z.length)
    (hpeek : ∀ u, z = '\x7b' :: u → t.length < (r'.flags.skip u).length) :
    ∃ z', r.step c s' = some (r', z') ∧ Swap t t' z z' := by
  obtain ⟨m, hm, hmove⟩ := step_eq_some.mp hr
  obtain ⟨z', hm', hz'⟩ := nextMove_swap hb h hm hz (by
    rintro regex rfl
    obtain rfl := Option.some.inj hmove
    exact hpeek)
  exact ⟨z', step_eq_some.mpr ⟨m, hm', hmove⟩, hz'⟩

end Gapfill.Pattern
