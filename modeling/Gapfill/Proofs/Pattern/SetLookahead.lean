import Gapfill.Proofs.Pattern.Lookahead

/-!
# Bracket sets read no further than their closing bracket

The lemmas of `Gapfill.Proofs.Pattern.Lookahead` for what stands in brackets. A
bracket is searched for the end of a class name, and a hyphen for what comes
after it; both searches stay in front of the closing bracket, which the two
texts have in common. Where that bracket comes after what a reader leaves, the
lemma takes it as `']' :: w <:+ z`.
-/

namespace Gapfill.Pattern

variable {t t' s s' z w : List Char} {f : Flags}

/-! ## The start of a bracket -/

theorem readHyphens_swap (hb : Behind f t t') : ∀ {n n' : Nat} {frame : SetFrame}
    {s s' : List Char}, Swap t t' s s' → s.length ≤ n → s'.length ≤ n' →
    t.length < (readHyphens f n frame s).2.length →
      (readHyphens f n' frame s').1 = (readHyphens f n frame s).1
        ∧ Swap t t' (readHyphens f n frame s).2 (readHyphens f n' frame s').2
  | 0, n', frame, s, s', h, hn, hn', hz => by
      rw [List.length_eq_zero_iff.mp (Nat.le_zero.mp hn)] at hz
      simp [readHyphens] at hz
  | n + 1, n', frame, s, s', h, hn, hn', hz => by
      obtain ⟨c, u, u', rfl, rfl, hu⟩ :=
        h.exists_cons (Nat.lt_of_lt_of_le hz (readHyphens_suffix f _ frame s).length_le)
      obtain ⟨m, rfl⟩ : ∃ m, n' = m + 1 := ⟨n' - 1, by simp at hn'; omega⟩
      simp only [List.length_cons] at hn hn'
      by_cases hc : c = '-'
      · subst hc
        simp only [readHyphens] at hz ⊢
        have hskip := Nat.le_of_lt (Nat.lt_of_lt_of_le hz (readHyphens_suffix f n _ _).length_le)
        have hlen := (f.skip_suffix u).length_le
        have hlen' := (f.skip_suffix u').length_le
        exact readHyphens_swap hb (Flags.skip_swap hb hu hskip) (by omega) (by omega) hz
      · have hstay : ∀ (k : Nat) (v : List Char),
            readHyphens f (k + 1) frame (c :: v) = (frame, c :: v) := by
          intro k v
          unfold readHyphens
          split
          · rename_i heq
            exact absurd (List.cons.inj heq).1 hc
          · rfl
        rw [hstay, hstay]
        exact ⟨rfl, .cons c hu⟩

theorem openSign_swap (hb : Behind f t t') (h : Swap t t' s s')
    (hz : t.length < (openSign f s).2.length) :
    (openSign f s').1 = (openSign f s).1 ∧ Swap t t' (openSign f s).2 (openSign f s').2 := by
  have hskip : t.length < (f.skip s).length := by
    unfold openSign at hz
    split at hz
    · rename_i u hu
      rw [hu]
      exact Nat.lt_succ_of_lt (Nat.lt_of_lt_of_le hz (f.skip_suffix u).length_le)
    · exact hz
  obtain ⟨c, u, u', hu, hu', hswap⟩ :=
    (Flags.skip_swap (f := f) hb h (Nat.le_of_lt hskip)).exists_cons hskip
  unfold openSign at hz ⊢
  rw [hu] at hz ⊢
  rw [hu']
  by_cases hc : c = '^'
  · subst hc
    exact ⟨rfl, Flags.skip_swap hb hswap (Nat.le_of_lt hz)⟩
  · split
    · rename_i heq
      exact absurd (List.cons.inj heq).1 hc
    · split
      · rename_i heq
        exact absurd (List.cons.inj heq).1 hc
      · exact ⟨rfl, .cons c hswap⟩

theorem openLiteral_swap (hb : Behind f t t') {frame : SetFrame} (h : Swap t t' s s')
    (hz : t.length < (openLiteral f (frame, s)).2.length) :
    (openLiteral f (frame, s')).1 = (openLiteral f (frame, s)).1
      ∧ Swap t t' (openLiteral f (frame, s)).2 (openLiteral f (frame, s')).2 := by
  obtain ⟨c, u, u', rfl, rfl, hu⟩ :=
    h.exists_cons (Nat.lt_of_lt_of_le hz (openLiteral_suffix f _).length_le)
  unfold openLiteral at hz ⊢
  dsimp only at hz ⊢
  cases hparts : frame.parts with
  | nil =>
      by_cases hc : c = ']'
      · subst hc
        simp only [hparts] at hz ⊢
        exact ⟨trivial, Flags.skip_swap hb hu (Nat.le_of_lt hz)⟩
      · split
        · rename_i heq
          exact absurd (List.cons.inj heq).1 hc
        · split
          · rename_i heq
            exact absurd (List.cons.inj heq).1 hc
          · exact ⟨rfl, .cons c hu⟩
  | cons part parts => exact ⟨rfl, .cons c hu⟩

theorem openSet_swap (hb : Behind f t t') (h : Swap t t' s s')
    (hz : t.length < (openSet f s).2.length) :
    (openSet f s').1 = (openSet f s).1 ∧ Swap t t' (openSet f s).2 (openSet f s').2 := by
  rw [openSet_eq] at hz ⊢
  rw [openSet_eq]
  have hhyph := Nat.lt_of_lt_of_le hz (openLiteral_suffix f _).length_le
  have hsign := Nat.lt_of_lt_of_le hhyph (readHyphens_suffix f _ _ _).length_le
  obtain ⟨hneg, hs⟩ := openSign_swap hb h hsign
  obtain ⟨hframe, hs⟩ := readHyphens_swap hb hs (Nat.le_refl _)
    (Nat.le_refl (openSign f s').2.length) hhyph
  rw [hneg]
  generalize readHyphens f (openSign f s).2.length ⟨(openSign f s).1, none, []⟩
    (openSign f s).2 = start at hz hs hframe ⊢
  generalize readHyphens f (openSign f s').2.length ⟨(openSign f s).1, none, []⟩
    (openSign f s').2 = start' at hs hframe ⊢
  obtain ⟨frame, u⟩ := start
  obtain ⟨frame', u'⟩ := start'
  obtain rfl : frame' = frame := hframe
  exact openLiteral_swap hb hs hz

/-! ## Named sets -/

/-- The names of sets are made of letters. -/
theorem ofAsciiName?_eq_none {name : List Char} {c : Char} (hc : c.isAlphanum = false)
    (h : c ∈ name) : CharSet.ofAsciiName? name = none := by
  have hne : ∀ s : String, s.toList.all Char.isAlphanum = true → String.ofList name ≠ s := by
    rintro s hs rfl
    rw [String.toList_ofList] at hs
    exact Bool.false_ne_true (hc.symm.trans (List.all_eq_true.mp hs c h))
  unfold CharSet.ofAsciiName?
  split
  all_goals first
    | rfl
    | (rename_i heq; exact absurd heq (hne _ (by decide)))

theorem namedSign_swap (h : Swap t t' s s') (hs : t.length < s.length) :
    (namedSign s').1 = (namedSign s).1 ∧ Swap t t' (namedSign s).2 (namedSign s').2 := by
  obtain ⟨c, u, u', rfl, rfl, hu⟩ := h.exists_cons hs
  by_cases hc : c = '^'
  · subst hc
    exact ⟨rfl, hu⟩
  · rw [namedSign_ne hc, namedSign_ne hc]
    exact ⟨rfl, .cons c hu⟩

theorem namedSetIn_swap {negated : Bool} (h : Swap t t' s s') :
    ReadAlike t t' (namedSetIn f negated s) (namedSetIn f negated s') := by
  intro set z hr hz
  rw [namedSetIn_eq] at hr ⊢
  obtain ⟨u, hafter, hnamed⟩ := Option.bind_eq_some_iff.mp hr
  obtain rfl : u = z := by
    obtain ⟨_, -, heq⟩ := Option.map_eq_some_iff.mp hnamed
    exact (Prod.mk.inj heq).2
  obtain ⟨hname, hdrop⟩ := dropWhile_swap h (p := (· != ':')) (by
    simp only [after?_eq_some.mp hafter, List.length_append, List.length_cons]
    omega)
  obtain ⟨u', hafter', hu⟩ := after?_swap hdrop hafter hz
  rw [hafter', hname]
  exact ReadAlike.of_map (fun _ => hu) _ _ set u hnamed hz

/-- No set is named where the name would go on behind a closing bracket. -/
private theorem namedSetIn_none_swap {negated : Bool} {u : List Char}
    (hr : namedSetIn f negated (u ++ ']' :: w) = none) :
    namedSetIn f negated (u ++ ']' :: z) = none := by
  by_cases hcolon : ':' ∈ u
  · -- the name ends in the common part, and so does what decides about it
    obtain ⟨name, v, rfl, hname⟩ := List.eq_append_cons_of_mem hcolon
    have hall : ∀ c ∈ name, (c != ':') = true := by
      intro c hc
      simp only [bne_iff_ne]
      rintro rfl
      exact hname hc
    unfold namedSetIn at hr ⊢
    simp only [List.append_assoc, List.cons_append, List.dropWhile_append_of_pos hall,
      List.takeWhile_append_of_pos hall, List.dropWhile_cons_of_neg (p := (· != ':'))
        (a := ':') (by decide), List.takeWhile_cons_of_neg (p := (· != ':')) (a := ':') (by decide),
      List.append_nil] at hr ⊢
    cases v with
    | nil => simpa using hr
    | cons d v =>
        by_cases hd : d = ']'
        · subst hd
          simpa using hr
        · simp [hd]
  · -- the name runs on past the closing bracket
    have hall : ∀ c ∈ u ++ [']'], (c != ':') = true := by
      intro c hc
      simp only [bne_iff_ne]
      rintro rfl
      simp [hcolon] at hc
    have hmem : ']' ∈ (u ++ ']' :: z).takeWhile (· != ':') := by
      rw [show u ++ ']' :: z = (u ++ [']']) ++ z by simp, List.takeWhile_append_of_pos hall]
      simp
    unfold namedSetIn
    split
    · rw [ofAsciiName?_eq_none (by decide) hmem]
      rfl
    · rfl

theorem readNamedSet_swap (h : Swap t t' s s') :
    ReadAlike t t' (readNamedSet f s) (readNamedSet f s') := by
  intro set z hr hz
  obtain ⟨u, rfl, hends⟩ := readNamedSet_ends hr
  have hlen := hends.length_le
  have hsign := (namedSign_suffix u).length_le
  rw [List.length_cons, List.length_cons] at hlen
  obtain ⟨u', rfl, hu⟩ := h.of_cons (by omega)
  obtain ⟨hnegated, hname⟩ := namedSign_swap hu (by omega)
  rw [readNamedSet_colon] at hr ⊢
  rw [hnegated]
  exact namedSetIn_swap hname set z hr hz

/-- What is no named set in front of a closing bracket is none, whatever comes behind that. -/
theorem readNamedSet_none_swap (h : Swap t t' s s') (hw : ']' :: w <:+ s)
    (hlen : t.length ≤ w.length) (hr : readNamedSet f s = none) : readNamedSet f s' = none := by
  obtain ⟨u, rfl⟩ := hw
  obtain ⟨v, rfl, hv⟩ := h.of_append (Nat.le_succ_of_le hlen)
  obtain ⟨z, rfl, -⟩ := hv.of_cons hlen
  cases u with
  | nil => exact readNamedSet_ne (by decide) z
  | cons c u =>
      by_cases hc : c = ':'
      · subst hc
        rw [List.cons_append, readNamedSet_colon] at hr ⊢
        cases u with
        | nil => exact namedSetIn_none_swap (u := []) hr
        | cons d u =>
            by_cases hd : d = '^'
            · subst hd
              exact namedSetIn_none_swap hr
            · rw [List.cons_append, namedSign_ne hd] at hr ⊢
              exact namedSetIn_none_swap (u := d :: u) hr
      · exact readNamedSet_ne hc _

/-! ## Parts of a set -/

theorem readSetItem_swap (hb : Behind f t t') (h : Swap t t' s s') :
    ReadAlike t t' (readSetItem f s) (readSetItem f s') := by
  intro item z hr hz
  obtain ⟨c, u, rfl, hu⟩ := readSetItem_suffix hr
  obtain ⟨u', rfl, hs⟩ := h.of_cons (length_le_of_suffix hz hu)
  by_cases hc : c = '\\'
  · subst hc
    rw [readSetItem_backslash] at hr ⊢
    obtain ⟨e, he, hitem⟩ := made_eq_some.mp hr
    have hne : e ≠ .wordBoundary := by
      rintro rfl
      simp [Escape.setItem?] at hitem
    obtain ⟨z', he', hz'⟩ := readEscape_swap hb hs he hz fun heq => absurd heq hne
    exact ⟨z', made_eq_some.mpr ⟨e, he', hitem⟩, hz'⟩
  · rw [readSetItem_cons hc] at hr ⊢
    exact ReadAlike.some (fun _ => hs) _ item z hr hz

private theorem suffix_dropWhile {p : Char → Bool} {c : Char} (hc : p c = false) :
    ∀ {s : List Char}, c :: w <:+ s → c :: w <:+ s.dropWhile p
  | [], h => by simp at h
  | d :: s, h => by
      by_cases hd : p d = true
      · rw [List.dropWhile_cons_of_pos hd]
        rcases List.suffix_cons_iff.mp h with heq | h
        · obtain ⟨rfl, -⟩ := List.cons.inj heq
          simp [hd] at hc
        · exact suffix_dropWhile hc h
      · rwa [List.dropWhile_cons_of_neg hd]

/-- Blanks are dropped in front of a closing bracket. -/
private theorem dropBlank_swap (h : Swap t t' s s') (hw : ']' :: w <:+ s)
    (hlen : t.length ≤ w.length) : ']' :: w <:+ s.dropWhile isBlank
      ∧ Swap t t' (s.dropWhile isBlank) (s'.dropWhile isBlank) := by
  have hdrop := suffix_dropWhile (p := isBlank) (by decide) hw
  exact ⟨hdrop, (dropWhile_swap h
    (Nat.lt_of_lt_of_le (Nat.lt_succ_of_le hlen) hdrop.length_le)).2⟩

private theorem behindSign_swap (h : Swap t t' s s') (hw : ']' :: w <:+ s)
    (hlen : t.length ≤ w.length) :
    ']' :: w <:+ behindSign s ∧ Swap t t' (behindSign s) (behindSign s') := by
  obtain ⟨hdrop, hs⟩ := dropBlank_swap h hw hlen
  obtain ⟨c, u, u', hu, hu', hus⟩ :=
    hs.exists_cons (Nat.lt_of_lt_of_le (Nat.lt_succ_of_le hlen) hdrop.length_le)
  by_cases hc : c = '#'
  · subst hc
    rw [behindSign_sign hu, behindSign_sign hu']
    rw [hu] at hdrop
    exact dropBlank_swap hus
      ((List.suffix_cons_iff.mp hdrop).resolve_left fun heq => by simp at heq) hlen
  · have hother : ∀ {x : List Char} {v}, x.dropWhile isBlank = c :: v →
        behindSign x = x.dropWhile isBlank := fun hx => behindSign_other fun v hv =>
      hc (List.cons.inj (hx.symm.trans hv)).1
    rw [hother hu, hother hu']
    exact ⟨hdrop, hs⟩

/-- The search for what comes next does not go behind a closing bracket. -/
private theorem peekPast_swap (h : Swap t t' s s') (hw : ']' :: w <:+ s)
    (hlen : t.length ≤ w.length) : peekPast f s' = peekPast f s := by
  have hhead : ∀ {u u' : List Char}, ']' :: w <:+ u → Swap t t' u u' → u'.head? = u.head? := by
    intro u u' hu hs
    obtain ⟨c, v, v', rfl, rfl, -⟩ :=
      hs.exists_cons (Nat.lt_of_lt_of_le (Nat.lt_succ_of_le hlen) hu.length_le)
    rfl
  obtain ⟨hbehind, hs⟩ := behindSign_swap h hw hlen
  rw [peekPast_eq, peekPast_eq, hhead hw h, hhead hbehind hs]

theorem SetItem.alone_swap {first : SetItem} (h : Swap t t' s s') :
    ReadAlike t t' (first.alone f s) (first.alone f s') := by
  intro part z hr hz
  obtain ⟨rfl, hpart⟩ := SetItem.alone_eq hr
  exact ⟨s', hpart s', h⟩

theorem SetItem.hyphen_swap (hb : Behind f t t') {first : SetItem} {part : SetPiece}
    (h : Swap t t' s s') (hr : first.hyphen f s = some (part, z)) (hw : ']' :: w <:+ z)
    (hlen : t.length ≤ w.length) :
    ∃ z', first.hyphen f s' = some (part, z') ∧ Swap t t' z z' := by
  have hz := Nat.le_trans hlen (Nat.le_trans (Nat.le_succ _) hw.length_le)
  have hws : ']' :: w <:+ s :=
    (List.suffix_cons_iff.mp (hw.trans (SetItem.hyphen_suffix hr))).resolve_left
      fun heq => by simp at heq
  unfold SetItem.hyphen at hr ⊢
  rw [peekPast_swap h hws hlen]
  split at hr
  · rename_i hpeek
    rw [if_pos hpeek]
    exact SetItem.alone_swap (.cons '-' h) part z hr hz
  · rename_i hpeek
    rw [if_neg hpeek]
    split at hr
    · rename_i hi u hhi
      obtain ⟨rfl, hpart⟩ := SetItem.upTo_eq hr
      obtain ⟨c, v, hv, hu⟩ := readSetItem_suffix hhi
      have hskip := length_le_of_suffix hz (hu.trans (hv ▸ List.suffix_cons c v))
      obtain ⟨z', hhi', hz'⟩ := readSetItem_swap hb (Flags.skip_swap hb h hskip) _ _ hhi hz
      exact ⟨z', by simp only [hhi', hpart], hz'⟩
    · simp at hr

theorem SetItem.behind_swap (hb : Behind f t t') {first : SetItem} {part : SetPiece}
    (h : Swap t t' s s') (hr : first.behind f s = some (part, z)) (hw : ']' :: w <:+ z)
    (hlen : t.length ≤ w.length) :
    ∃ z', first.behind f s' = some (part, z') ∧ Swap t t' z z' := by
  have hz := Nat.lt_of_lt_of_le (Nat.lt_succ_of_le hlen) hw.length_le
  have hs := Nat.lt_of_lt_of_le hz (SetItem.behind_suffix hr).length_le
  rcases next_cases '-' s with rfl | ⟨u, rfl⟩ | hother
  · exact absurd hs (Nat.not_lt_zero _)
  · obtain ⟨u', rfl, hu⟩ := h.of_cons (Nat.le_of_lt_succ hs)
    exact SetItem.hyphen_swap hb hu hr hw hlen
  · rw [first.behind_other hother] at hr
    rw [first.behind_other (hother.swap h hs)]
    exact SetItem.alone_swap h part z hr (Nat.le_of_lt hz)

theorem readSetPart_swap (hb : Behind f t t') {part : SetPiece} (h : Swap t t' s s')
    (hr : readSetPart f s = some (part, z)) (hw : ']' :: w <:+ z) (hlen : t.length ≤ w.length) :
    ∃ z', readSetPart f s' = some (part, z') ∧ Swap t t' z z' := by
  rw [readSetPart_eq] at hr ⊢
  obtain ⟨⟨first, u⟩, hitem, hbehind⟩ := Option.bind_eq_some_iff.mp hr
  have hskip := length_le_of_suffix (Nat.le_trans hlen (Nat.le_succ _))
    (hw.trans (SetItem.behind_suffix hbehind))
  obtain ⟨u', hitem', hu⟩ :=
    readSetItem_swap hb h _ _ hitem (length_le_of_suffix hskip (f.skip_suffix u))
  obtain ⟨z', hbehind', hz'⟩ :=
    SetItem.behind_swap hb (Flags.skip_swap hb hu hskip) hbehind hw hlen
  exact ⟨z', by rw [hitem']; exact hbehind', hz'⟩

/-! ## Whole brackets -/

theorem readSetOp_swap (h : Swap t t' s s') : ReadAlike t t' (readSetOp s) (readSetOp s') := by
  intro op z hr hz
  obtain ⟨c, rfl, hop⟩ := readSetOp_eq_some.mp hr
  obtain ⟨z', rfl, hz'⟩ := h.of_append (u := [c, c]) hz
  exact ⟨z', readSetOp_eq_some.mpr ⟨c, rfl, hop⟩, hz'⟩

/-- Two characters tell that there is no operation. -/
theorem readSetOp_none_swap (h : Swap t t' s s') (hlen : t.length + 2 ≤ s.length)
    (hr : readSetOp s = none) : readSetOp s' = none := by
  obtain ⟨c, u, u', rfl, rfl, hu⟩ := h.exists_cons (by omega)
  obtain ⟨d, v, v', rfl, rfl, -⟩ := hu.exists_cons (by rw [List.length_cons] at hlen; omega)
  rw [readSetOp] at hr ⊢
  split
  · rename_i hcd
    rw [if_pos hcd, Option.map_eq_none_iff] at hr
    rw [hr]
    rfl
  · rfl

/-- With these fuels a set is read alike in front of any two texts of which the second one is not
too long. -/
def SetsSwap (f : Flags) (t t' : List Char) (n n' : Nat) : Prop :=
  ∀ (frame : SetFrame) (outer : List SetFrame) {s s' : List Char}, Swap t t' s s' →
    s'.length < n' → ReadAlike t t' (readSet f n frame outer s) (readSet f n' frame outer s')

variable {n n' : Nat} {frame : SetFrame} {outer : List SetFrame}

theorem readSetOpen_swap (hb : Behind f t t') (hn : SetsSwap f t t' n n') (h : Swap t t' s s')
    (hs' : s'.length < n') :
    ReadAlike t t' (readSetOpen f n frame outer s) (readSetOpen f n' frame outer s') := by
  intro piece z hr hz
  unfold readSetOpen at hr ⊢
  have hcloses : ∀ {frame outer u}, readSet f n frame outer u = some (piece, z) →
      t.length < u.length := fun hu =>
    Nat.lt_of_lt_of_le (Nat.lt_succ_of_le hz) (readSet_closes hu).length_le
  split at hr
  · rename_i set u hnamed
    obtain ⟨u', hnamed', hu⟩ := readNamedSet_swap h _ _ hnamed (Nat.le_of_lt (hcloses hr))
    rw [hnamed']
    exact hn _ _ hu (Nat.lt_of_le_of_lt (readNamedSet_suffix hnamed').length_le hs') piece z hr hz
  · simp at hr
  · rename_i hnamed
    obtain ⟨hframe, hs⟩ := openSet_swap hb h (hcloses hr)
    rw [readNamedSet_none_swap h ((readSet_closes hr).trans (openSet_suffix f s)) hz hnamed, hframe]
    exact hn _ _ hs (Nat.lt_of_le_of_lt (openSet_suffix f s').length_le hs') piece z hr hz

theorem readSetClose_swap (hn : SetsSwap f t t' n n') (h : Swap t t' s s') (hs' : s'.length < n') :
    ReadAlike t t' (readSetClose f n frame outer s) (readSetClose f n' frame outer s') := by
  unfold readSetClose
  split
  · exact .none
  · exact .some (fun _ => h) _
  · exact hn _ _ h hs'

theorem readSetNext_swap (hb : Behind f t t') (hn : SetsSwap f t t' n n') (h : Swap t t' s s')
    (hs' : s'.length ≤ n') :
    ReadAlike t t' (readSetNext f n frame outer s) (readSetNext f n' frame outer s') := by
  intro piece z hr hz
  obtain ⟨c, x, hx, hclose⟩ := readSetNext_closes readSet_closes hr
  have hlen := hclose.length_le
  unfold readSetNext at hr ⊢
  split at hr
  · rename_i op u hop
    have hu := length_le_of_suffix (Nat.le_trans hz (Nat.le_succ _)) (readSet_closes hr)
    obtain ⟨u', hop', hs⟩ := readSetOp_swap h _ _ hop hu
    rw [hop']
    obtain ⟨d, hd, -⟩ := readSetOp_eq_some.mp hop'
    rw [hd, List.length_cons, List.length_cons] at hs'
    exact hn _ _ hs (by omega) piece z hr hz
  · rename_i hop
    obtain ⟨⟨part, u⟩, hpart, hrest⟩ := Option.bind_eq_some_iff.mp hr
    obtain ⟨u', hpart', hs⟩ := readSetPart_swap hb h hpart (readSet_closes hrest) hz
    obtain ⟨d, y, hy, hu'⟩ := readSetPart_suffix hpart'
    have hu'len := hu'.length_le
    rw [hy, List.length_cons] at hs'
    rw [readSetOp_none_swap h (by rw [hx]; simp only [List.length_cons] at hlen ⊢; omega) hop,
      hpart']
    exact hn _ _ hs (by omega) piece z hrest hz

theorem readSet_swap (hb : Behind f t t') : ∀ n n' : Nat, SetsSwap f t t' n n'
  | 0, _, _, _, _, _, _, _ => .none
  | _ + 1, 0, _, _, _, _, _, hs' => absurd hs' (Nat.not_lt_zero _)
  | n + 1, n' + 1, frame, outer, s, s', h, hs' => by
      intro piece z hr hz
      have hskip' := Nat.lt_of_le_of_lt (f.skip_suffix s').length_le hs'
      rcases next_cases '[' (f.skip s) with hend | ⟨u, hu⟩ | hopen
      · simp [readSet_end n hend] at hr
      · rw [readSet_open n hu] at hr
        obtain ⟨u', hu', hs⟩ := Flags.skip_swap_cons hb h hu
          (length_le_of_suffix (Nat.le_trans hz (Nat.le_succ _))
            (readSetOpen_closes readSet_closes hr))
        rw [hu'] at hskip'
        rw [readSet_open n' hu']
        exact readSetOpen_swap hb (readSet_swap hb n n') hs (Nat.lt_of_succ_lt_succ hskip')
          piece z hr hz
      · rcases next_cases ']' (f.skip s) with hend | ⟨u, hu⟩ | hclose
        · exact absurd hend hopen.1
        · rw [readSet_close n hu] at hr
          obtain ⟨u', hu', hs⟩ := Flags.skip_swap_cons hb h hu (Nat.le_trans hz
            (Nat.le_of_succ_le_succ (readSetClose_closes readSet_closes hr).length_le))
          rw [hu'] at hskip'
          rw [readSet_close n' hu']
          exact readSetClose_swap (readSet_swap hb n n') hs (Nat.lt_of_succ_lt_succ hskip')
            piece z hr hz
        · rw [readSet_next n hopen hclose] at hr
          obtain ⟨c, u, hu, hz'⟩ := readSetNext_closes readSet_closes hr
          have hlen : t.length < (f.skip s).length := by
            rw [hu]
            exact Nat.lt_succ_of_le (length_le_of_suffix (Nat.le_trans hz (Nat.le_succ _)) hz')
          have hs := Flags.skip_swap (f := f) hb h (Nat.le_of_lt hlen)
          rw [readSet_next n' (hopen.swap hs hlen) (hclose.swap hs hlen)]
          exact readSetNext_swap hb (readSet_swap hb n n') hs (Nat.le_of_lt_succ hskip')
            piece z hr hz

end Gapfill.Pattern
