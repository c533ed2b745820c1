import Gapfill.Proofs.Pattern.Slashes

/-!
# Bracket sets with escaped slashes

The equations for the readers of bracket sets: of the text with its slashes escaped
each reads the same, and leaves the same rest, with its slashes escaped. In a set
too a slash stands for itself, also where it ends a range; a backslash before it
is no part of a sign, and no name of a set has one of them.
-/

namespace Gapfill.Pattern

variable {f : Flags}

/-! ## The start of a set -/

theorem readHyphens_slashed : ∀ {n n' : Nat} {frame : SetFrame} {s : List Char},
    s.length ≤ n → (slashed s).length ≤ n' →
      readHyphens f n' frame (slashed s) = slashRest (readHyphens f n frame s)
  | n, n', frame, [], _, _ => by
      cases n <;> cases n' <;> rfl
  | 0, _, _, _ :: _, hn, _ => absurd hn (Nat.not_succ_le_zero _)
  | n + 1, 0, frame, c :: s, _, hn' => by
      have hnil := slashed_eq_nil (List.length_eq_zero_iff.mp (Nat.le_zero.mp hn'))
      exact absurd hnil (List.cons_ne_nil _ _)
  | n + 1, n' + 1, frame, c :: s, hn, hn' => by
      rcases slashed_next (k := '-') (by decide) (c :: s) with ⟨h, -⟩ | ⟨u, h, h'⟩ | ⟨h, h'⟩
      · exact absurd h (List.cons_ne_nil _ _)
      · obtain ⟨rfl, rfl⟩ := List.cons.inj h
        rw [h'] at hn' ⊢
        have hlen := (f.skip_suffix s).length_le
        have hlen' := (f.skip_suffix (slashed s)).length_le
        rw [List.length_cons] at hn hn'
        rw [f.skip_slashed] at hlen'
        rw [readHyphens, readHyphens, f.skip_slashed]
        exact readHyphens_slashed (by omega) (by omega)
      · have hother : ∀ {k : Nat} {v : List Char}, Other '-' v →
            readHyphens f (k + 1) frame v = (frame, v) := by
          intro k v hv
          unfold readHyphens
          split
          · exact absurd rfl (hv.2 _)
          · rfl
        rw [hother h, hother h']
        rfl

theorem openSign_slashed (s : List Char) : openSign f (slashed s) = slashRest (openSign f s) := by
  have hskip := f.skip_slashed s
  rcases slashed_next (k := '^') (by decide) (f.skip s) with ⟨h, h'⟩ | ⟨u, h, h'⟩ | ⟨h, h'⟩
  · rw [openSign, openSign, hskip, h', h]
    rfl
  · rw [openSign, openSign, hskip, h', h]
    change (true, f.skip (slashed u)) = (true, slashed (f.skip u))
    rw [f.skip_slashed]
  · have hother : ∀ {v : List Char}, Other '^' (f.skip v) → openSign f v = (false, f.skip v) := by
      intro v hv
      unfold openSign
      split
      · exact absurd (by assumption) (hv.2 _)
      · rfl
    rw [hother h, hother (hskip ▸ h'), hskip]
    rfl

theorem openLiteral_slashed (frame : SetFrame) (s : List Char) :
    openLiteral f (frame, slashed s) = slashRest (openLiteral f (frame, s)) := by
  have hother : ∀ {v : List Char}, frame.parts ≠ [] ∨ (∀ u, v ≠ ']' :: u) →
      openLiteral f (frame, v) = (frame, v) := by
    intro v hv
    unfold openLiteral
    split
    · rename_i hparts hcons
      exact (hv.elim (absurd hparts) fun hne => absurd hcons (hne _))
    · rfl
  by_cases hparts : frame.parts = []
  · rcases slashed_next (k := ']') (by decide) s with ⟨rfl, -⟩ | ⟨u, rfl, h'⟩ | ⟨h, h'⟩
    · rw [slashed_nil, hother (Or.inr fun u => (List.cons_ne_nil ']' u).symm)]
      rfl
    · rw [h']
      simp only [openLiteral, hparts]
      rw [f.skip_slashed]
      rfl
    · rw [hother (Or.inr h.2), hother (Or.inr h'.2)]
      rfl
  · rw [hother (Or.inl hparts), hother (Or.inl hparts)]
    rfl

theorem openSet_slashed (s : List Char) : openSet f (slashed s) = slashRest (openSet f s) := by
  rw [openSet_eq, openSet_eq, openSign_slashed]
  dsimp only [slashRest]
  rw [readHyphens_slashed (Nat.le_refl _) (Nat.le_refl _)]
  exact openLiteral_slashed _ _

theorem namedSetIn_slashed (negated : Bool) (s : List Char) :
    namedSetIn f negated (slashed s) = (namedSetIn f negated s).map slashRest := by
  rw [namedSetIn_eq, namedSetIn_eq]
  rcases span_slashed (p := (· != ':')) (by decide) s with ⟨hname, hrest⟩ | ⟨hname, hname'⟩
  · rw [hname, hrest, after?_slashed (by decide)]
    cases after? [':', ']'] (s.dropWhile (· != ':')) with
    | none => rfl
    | some rest =>
        simp only [Option.map_some, Option.bind_some, Option.map_map]
        rfl
  · -- what runs up to a colon is no name of a set, on either side
    have hnone : ∀ {name : List Char}, ¬ Clean name → CharSet.ofAsciiName? name = none := by
      intro name hname
      obtain ⟨c, hc, hsign⟩ := exists_sign_of_not_clean hname
      exact ofAsciiName?_eq_none hsign.2.1 hc
    rw [hnone hname, hnone hname']
    simp

theorem readNamedSet_slashed (s : List Char) :
    readNamedSet f (slashed s) = (readNamedSet f s).map slashRest := by
  rcases slashed_next (k := ':') (by decide) s with ⟨rfl, -⟩ | ⟨u, rfl, h⟩ | ⟨h, h'⟩
  · rfl
  · have hsign : namedSign (slashed u) = slashRest (namedSign u) := by
      rcases slashed_next (k := '^') (by decide) u with ⟨rfl, -⟩ | ⟨v, rfl, h⟩ | ⟨h, h'⟩
      · rfl
      · rw [h]
        rfl
      · have hother : ∀ {v : List Char}, Other '^' v → namedSign v = (false, v) := by
          intro v hv
          obtain ⟨c, v, rfl⟩ := List.exists_cons_of_ne_nil hv.1
          exact namedSign_ne (fun hc => hv.2 v (by rw [hc])) v
        rw [hother h, hother h']
        rfl
    rw [h, readNamedSet_colon, readNamedSet_colon, hsign]
    exact namedSetIn_slashed _ _
  · have hother : ∀ {v : List Char}, Other ':' v → readNamedSet f v = none := by
      intro v hv
      obtain ⟨c, v, rfl⟩ := List.exists_cons_of_ne_nil hv.1
      exact readNamedSet_ne (fun hc => hv.2 v (by rw [hc])) v
    rw [hother h, hother h']
    rfl

/-! ## Parts of a set -/

/-- What is done with the thing that was read leaves the rest as it is. -/
theorem bind_slashRest {α β : Type} (read : Option (α × List Char)) (g : α → Option β) :
    ((read.map slashRest).bind fun (a, rest) => (g a).map (·, rest)) =
      (read.bind fun (a, rest) => (g a).map (·, rest)).map slashRest := by
  rcases read with _ | ⟨a, rest⟩
  · rfl
  · simp only [Option.map_some, Option.bind_some, slashRest, Option.map_map]
    rfl

theorem readSetItem_slashed (s : List Char) :
    readSetItem f (slashed s) = (readSetItem f s).map slashRest := by
  rcases slashed_cases s with rfl | ⟨u, rfl⟩ | ⟨u, rfl⟩ | ⟨c, u, hc, rfl⟩
  · rfl
  · rw [slashed_slash, readSetItem_backslash, readEscape_slash, readSetItem_cons (by decide)]
    rfl
  · rw [slashed_backslash, readSetItem_backslash, readSetItem_backslash, readEscape_slashed]
    exact bind_slashRest _ _
  · rw [slashed_cons hc, readSetItem_cons hc.2, readSetItem_cons hc.2]
    rfl

/-- The character that a text with this first character begins with when its slashes are escaped. -/
def leading (c : Char) : Char := if c = '/' then '\\' else c

theorem head?_slashed (s : List Char) : (slashed s).head? = s.head?.map leading := by
  rcases slashed_cases s with rfl | ⟨u, rfl⟩ | ⟨u, rfl⟩ | ⟨c, u, hc, rfl⟩
  · rfl
  · rfl
  · rfl
  · rw [slashed_cons hc, List.head?_cons, List.head?_cons, Option.map_some, leading, if_neg hc.1]

theorem map_leading_eq_some {k : Char} (hk : Kept k) (next : Option Char) :
    (next.map leading == some k) = (next == some k) := by
  cases next with
  | none => rfl
  | some c =>
      rw [Option.map_some, leading]
      split
      · rename_i hc
        rw [hc]
        simp [hk.1.symm, hk.2.symm]
      · rfl

theorem behindSign_slashed (s : List Char) : behindSign (slashed s) = slashed (behindSign s) := by
  have hdrop := dropWhile_slashed (p := isBlank) (by decide) (by decide)
  rcases slashed_next (k := '#') (by decide) (s.dropWhile isBlank) with
    ⟨h, h'⟩ | ⟨u, h, h'⟩ | ⟨h, h'⟩
  · rw [behindSign, behindSign, hdrop, h', h]
    rfl
  · rw [behindSign_sign h, behindSign_sign ((hdrop s).trans h'), hdrop]
  · rw [behindSign_other h.2, behindSign_other (hdrop s ▸ h'.2), hdrop]

theorem peekPast_slashed (s : List Char) : peekPast f (slashed s) = (peekPast f s).map leading := by
  rw [peekPast_eq, peekPast_eq, behindSign_slashed, head?_slashed, head?_slashed, ← Option.map_or]
  split <;> rfl

theorem SetItem.alone_slashed (first : SetItem) (s : List Char) :
    first.alone f (slashed s) = (first.alone f s).map slashRest := by
  cases first with
  | char c =>
      rw [SetItem.alone, SetItem.alone, Option.map_map]
      rfl
  | set whole => rfl

theorem SetItem.upTo_slashed (first : SetItem) (hi : Char) (s : List Char) :
    first.upTo f hi (slashed s) = (first.upTo f hi s).map slashRest := by
  cases first with
  | char lo =>
      rw [SetItem.upTo, SetItem.upTo]
      split <;> rfl
  | set whole => rfl

theorem SetItem.hyphen_slashed (first : SetItem) (s : List Char) :
    first.hyphen f (slashed s) = (first.hyphen f s).map slashRest := by
  rw [SetItem.hyphen, SetItem.hyphen, peekPast_slashed, map_leading_eq_some (by decide),
    map_leading_eq_some (by decide), f.skip_slashed, readSetItem_slashed]
  split
  · rw [← slashed_cons (by decide), first.alone_slashed]
  · rcases readSetItem f (f.skip s) with _ | ⟨hi | _, rest⟩
    · rfl
    · exact first.upTo_slashed hi rest
    · rfl

theorem SetItem.behind_slashed (first : SetItem) (s : List Char) :
    first.behind f (slashed s) = (first.behind f s).map slashRest := by
  rcases slashed_next (k := '-') (by decide) s with ⟨rfl, -⟩ | ⟨u, rfl, h⟩ | ⟨h, h'⟩
  · rfl
  · rw [h]
    exact first.hyphen_slashed u
  · rw [first.behind_other h, first.behind_other h', first.alone_slashed]

theorem readSetPart_slashed (s : List Char) :
    readSetPart f (slashed s) = (readSetPart f s).map slashRest := by
  rw [readSetPart_eq, readSetPart_eq, readSetItem_slashed]
  rcases readSetItem f s with _ | ⟨first, rest⟩
  · rfl
  · simp only [Option.map_some, Option.bind_some, slashRest, f.skip_slashed]
    exact first.behind_slashed _

/-! ## Whole sets -/

theorem readSetOp_slashed (s : List Char) :
    readSetOp (slashed s) = (readSetOp s).map slashRest := by
  rcases slashed_cases s with rfl | ⟨u, rfl⟩ | ⟨u, rfl⟩ | ⟨c, u, hc, rfl⟩
  · rfl
  · rw [slashed_slash, readSetOp, if_neg (by decide)]
    cases u with
    | nil => rfl
    | cons d v =>
        rw [readSetOp]
        split <;> rfl
  · cases u with
    | nil => rfl
    | cons d v =>
        rw [slashed_backslash, slashedBehind_cons, readSetOp, readSetOp]
        split <;> rfl
  · rw [slashed_cons hc]
    rcases slashed_next hc u with ⟨rfl, -⟩ | ⟨v, rfl, h⟩ | ⟨h, h'⟩
    · rfl
    · rw [h, readSetOp, readSetOp, if_pos rfl, if_pos rfl, Option.map_map]
      rfl
    · have hother : ∀ {v : List Char}, Other c v → readSetOp (c :: v) = none := by
        intro v hv
        obtain ⟨d, w, rfl⟩ := List.exists_cons_of_ne_nil hv.1
        rw [readSetOp, if_neg]
        rintro rfl
        exact hv.2 w rfl
      rw [hother h, hother h']
      rfl

variable {frame : SetFrame} {outer : List SetFrame}

theorem readSetOp_length {s rest : List Char} {op : SetOp} (h : readSetOp s = some (op, rest)) :
    rest.length < s.length := by
  obtain ⟨c, rfl, -⟩ := readSetOp_eq_some.mp h
  simp only [List.length_cons]
  omega

theorem readSetPart_length {s rest : List Char} {part : SetPiece}
    (h : readSetPart f s = some (part, rest)) : rest.length < s.length := by
  obtain ⟨c, u, rfl, hu⟩ := readSetPart_suffix h
  exact Nat.lt_succ_of_le hu.length_le

/-- With these fuels a set is read alike from each text for which they are enough. -/
def SetsAlike (f : Flags) (n n' : Nat) : Prop :=
  ∀ (frame : SetFrame) (outer : List SetFrame) {s : List Char}, s.length < n →
    (slashed s).length < n' →
      readSet f n' frame outer (slashed s) = (readSet f n frame outer s).map slashRest

variable {n n' : Nat}

theorem readSetOpen_slashed (h : SetsAlike f n n') {s : List Char} (hn : s.length < n)
    (hn' : (slashed s).length < n') :
    readSetOpen f n' frame outer (slashed s) = (readSetOpen f n frame outer s).map slashRest := by
  have hnamed' := readNamedSet_slashed (f := f) s
  rw [readSetOpen, readSetOpen]
  rcases hnamed : readNamedSet f s with _ | ⟨_ | set, rest⟩
  · have hlen := (openSet_suffix f s).length_le
    have hlen' := (openSet_suffix f (slashed s)).length_le
    rw [hnamed'.trans (congrArg _ hnamed)]
    rw [openSet_slashed] at hlen' ⊢
    exact h _ _ (Nat.lt_of_le_of_lt hlen hn) (Nat.lt_of_le_of_lt hlen' hn')
  · rw [hnamed'.trans (congrArg _ hnamed)]
    rfl
  · replace hnamed' : readNamedSet f (slashed s) = some (some set, slashed rest) := by
      rw [hnamed', hnamed]
      rfl
    have hlen := (readNamedSet_suffix hnamed).length_le
    have hlen' := (readNamedSet_suffix hnamed').length_le
    rw [hnamed']
    exact h _ _ (Nat.lt_of_le_of_lt hlen hn) (Nat.lt_of_le_of_lt hlen' hn')

theorem readSetClose_slashed (h : SetsAlike f n n') {s : List Char} (hn : s.length < n)
    (hn' : (slashed s).length < n') :
    readSetClose f n' frame outer (slashed s) = (readSetClose f n frame outer s).map slashRest := by
  unfold readSetClose
  cases frame.close? f with
  | none => rfl
  | some piece =>
      cases outer with
      | nil => rfl
      | cons around outer => exact h _ _ hn hn'

theorem readSetNext_slashed (h : SetsAlike f n n') {s : List Char} (hn : s.length ≤ n)
    (hn' : (slashed s).length ≤ n') :
    readSetNext f n' frame outer (slashed s) = (readSetNext f n frame outer s).map slashRest := by
  rw [readSetNext, readSetNext]
  rcases hop : readSetOp s with _ | ⟨op, rest⟩
  · have hop' : readSetOp (slashed s) = none := by
      rw [readSetOp_slashed, hop]
      rfl
    rw [hop']
    rcases hpart : readSetPart f s with _ | ⟨part, rest⟩
    · rw [readSetPart_slashed, hpart]
      rfl
    · have hpart' : readSetPart f (slashed s) = some (part, slashed rest) := by
        rw [readSetPart_slashed, hpart]
        rfl
      rw [hpart']
      exact h _ _ (Nat.lt_of_lt_of_le (readSetPart_length hpart) hn)
        (Nat.lt_of_lt_of_le (readSetPart_length hpart') hn')
  · have hop' : readSetOp (slashed s) = some (op, slashed rest) := by
      rw [readSetOp_slashed, hop]
      rfl
    rw [hop']
    exact h _ _ (Nat.lt_of_lt_of_le (readSetOp_length hop) hn)
      (Nat.lt_of_lt_of_le (readSetOp_length hop') hn')

theorem readSet_slashed : ∀ n n' : Nat, SetsAlike f n n'
  | 0, _, _, _, _, hn, _ => absurd hn (Nat.not_lt_zero _)
  | _ + 1, 0, _, _, _, _, hn' => absurd hn' (Nat.not_lt_zero _)
  | n + 1, n' + 1, frame, outer, s, hn, hn' => by
      have hskip := f.skip_slashed s
      have hlen := Nat.lt_of_le_of_lt (f.skip_suffix s).length_le hn
      have hlen' := Nat.lt_of_le_of_lt (f.skip_suffix (slashed s)).length_le hn'
      rw [hskip] at hlen'
      rcases slashed_next (k := '[') (by decide) (f.skip s) with
        ⟨h, h'⟩ | ⟨u, h, h'⟩ | ⟨hopen, hopen'⟩
      · rw [readSet_end n' (hskip.trans h'), readSet_end n h]
        rfl
      · rw [readSet_open n' (hskip.trans h'), readSet_open n h]
        rw [h] at hlen
        rw [h'] at hlen'
        exact readSetOpen_slashed (readSet_slashed n n') (Nat.lt_of_succ_lt_succ hlen)
          (Nat.lt_of_succ_lt_succ hlen')
      · rcases slashed_next (k := ']') (by decide) (f.skip s) with
          ⟨h, -⟩ | ⟨u, h, h'⟩ | ⟨hclose, hclose'⟩
        · exact absurd h hopen.1
        · rw [readSet_close n' (hskip.trans h'), readSet_close n h]
          rw [h] at hlen
          rw [h'] at hlen'
          exact readSetClose_slashed (readSet_slashed n n') (Nat.lt_of_succ_lt_succ hlen)
            (Nat.lt_of_succ_lt_succ hlen')
        · rw [readSet_next n' (hskip ▸ hopen') (hskip ▸ hclose'), readSet_next n hopen hclose,
            hskip]
          exact readSetNext_slashed (readSet_slashed n n') (Nat.le_of_lt_succ hlen)
            (Nat.le_of_lt_succ hlen')

end Gapfill.Pattern
