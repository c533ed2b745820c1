import Gapfill.Proofs.Pattern.Moves
import Gapfill.Proofs.Text.Runs

/-!
# Readers leave an end of their text

Every reader of patterns takes something off the front of its text and gives
back what is left. Stated once for each reader: what is left is a suffix. The
readers that cannot succeed on nothing leave a suffix of the *tail*
(`nextMove_suffix` and the escapes before it), so that reading comes to an
end; a bracket set ends with its closing bracket (`readSet_closes`).
-/

namespace Gapfill.Pattern

variable {f : Flags} {s rest : List Char}

/-! ## Blanks and runs -/

theorem dropBlanks_suffix : ∀ (b : Bool) (s : List Char), dropBlanks b s <:+ s
  | false, [] => List.suffix_refl _
  | true, [] => List.suffix_refl _
  | true, c :: rest => (dropBlanks_suffix _ rest).trans (List.suffix_cons c rest)
  | false, c :: rest => by
      rw [dropBlanks]
      split
      · exact (dropBlanks_suffix _ rest).trans (List.suffix_cons c rest)
      · split
        · exact (dropBlanks_suffix _ rest).trans (List.suffix_cons c rest)
        · exact List.suffix_refl _

theorem Flags.skip_suffix (f : Flags) (s : List Char) : f.skip s <:+ s := by
  unfold Flags.skip
  split
  · exact dropBlanks_suffix false s
  · exact List.suffix_refl _

/-- What begins where blanks have been skipped has its rest in the text. -/
theorem Flags.tail_suffix_of_skip {f : Flags} {s rest : List Char} {c : Char}
    (h : f.skip s = c :: rest) : rest <:+ s :=
  (List.suffix_cons c rest).trans (h ▸ f.skip_suffix s)

/-- A character that the reader does not pass over. -/
def Counts (c : Char) : Prop := isBlank c = false ∧ c ≠ '#'

instance (c : Char) : Decidable (Counts c) := inferInstanceAs (Decidable (_ ∧ _))

theorem Flags.skip_of_counts {f : Flags} {c : Char} (h : Counts c) (s : List Char) :
    f.skip (c :: s) = c :: s := by
  unfold Flags.skip
  split
  · simp [dropBlanks, h.1, h.2]
  · rfl

theorem counts_of_dropBlanks : ∀ {b : Bool} {s u : List Char} {c : Char},
    dropBlanks b s = c :: u → Counts c
  | _, [], _, _, h => by simp [dropBlanks] at h
  | true, _ :: s, _, _, h => counts_of_dropBlanks (by rwa [dropBlanks] at h)
  | false, d :: s, u, c, h => by
      rw [dropBlanks] at h
      split at h
      · exact counts_of_dropBlanks h
      · rename_i hblank
        split at h
        · exact counts_of_dropBlanks h
        · rename_i hcomment
          obtain ⟨rfl, -⟩ := List.cons.inj h
          exact ⟨by simpa using hblank, by simpa using hcomment⟩

/-- Where blanks do not count, none is left in front. -/
theorem Flags.counts_of_skip {f : Flags} {s u : List Char} {c : Char} (h : f.skip s = c :: u)
    (hskip : f.skipBlanks = true) : Counts c := by
  rw [Flags.skip, if_pos hskip] at h
  exact counts_of_dropBlanks h

theorem takeRun_suffix (f : Flags) (p : Char → Bool) : ∀ (n : Nat) (s : List Char),
    (takeRun f p n s).2 <:+ s
  | 0, s => by cases s <;> exact List.suffix_refl _
  | _ + 1, [] => by simp [takeRun]
  | n + 1, c :: rest => by
      rw [takeRun]
      split
      · exact ((takeRun_suffix f p n _).trans (f.skip_suffix rest)).trans (List.suffix_cons c rest)
      · exact List.suffix_refl _

theorem takeRun_skip_suffix (f : Flags) (p : Char → Bool) (n : Nat) (s : List Char) :
    (takeRun f p n (f.skip s)).2 <:+ s :=
  (takeRun_suffix f p n (f.skip s)).trans (f.skip_suffix s)

theorem takeExactly_suffix {f : Flags} {p : Char → Bool} : ∀ {n : Nat} {s run rest : List Char},
    takeExactly f p n s = some (run, rest) → rest <:+ s
  | 0, s, run, rest, h => by
      obtain ⟨-, rfl⟩ := Prod.mk.inj (Option.some.inj h)
      exact List.suffix_refl _
  | n + 1, [], run, rest, h => by simp [takeExactly] at h
  | n + 1, c :: s, run, rest, h => by
      rw [takeExactly] at h
      split at h
      · obtain ⟨⟨run', rest'⟩, h', heq⟩ := Option.map_eq_some_iff.mp h
        obtain ⟨-, rfl⟩ := Prod.mk.inj heq
        exact ((takeExactly_suffix h').trans (f.skip_suffix s)).trans (List.suffix_cons c s)
      · simp at h

theorem takeExactly_shorter {p : Char → Bool} {n : Nat} {run : List Char} (hn : n ≠ 0)
    (h : takeExactly f p n s = some (run, rest)) : rest.length < s.length := by
  obtain ⟨m, rfl⟩ := Nat.exists_eq_succ_of_ne_zero hn
  rcases s with _ | ⟨c, u⟩
  · simp [takeExactly] at h
  rw [takeExactly] at h
  split at h
  · obtain ⟨⟨run', rest'⟩, h', heq⟩ := Option.map_eq_some_iff.mp h
    obtain ⟨-, rfl⟩ := Prod.mk.inj heq
    exact Nat.lt_succ_of_le ((takeExactly_suffix h').trans (f.skip_suffix u)).length_le
  · simp at h

/-! ## Escapes -/

theorem inBraces_suffix {α : Type} {act : List Char → List Char → Option (α × List Char)}
    {taken : List Char × List Char} {a : α}
    (hact : ∀ {u}, act taken.1 u = some (a, rest) → rest <:+ u)
    (h : inBraces act taken = some (a, rest)) : rest <:+ taken.2 := by
  obtain ⟨u, hu, ha⟩ := inBraces_eq_some h
  rw [hu]
  exact (hact ha).trans (List.suffix_cons _ u)

theorem bracedCode_suffix {run : List Char} {e : Escape}
    (h : bracedCode f run s = some (e, rest)) : rest <:+ s := by
  unfold bracedCode at h
  split at h
  · simp at h
  · obtain ⟨c, -, heq⟩ := Option.map_eq_some_iff.mp h
    obtain ⟨-, rfl⟩ := Prod.mk.inj heq
    exact f.skip_suffix s

theorem readCode_suffix {digits : Nat} {e : Escape} (h : readCode f digits s = some (e, rest)) :
    rest <:+ s := by
  rcases next_cases '\x7b' (f.skip s) with hend | ⟨u, hu⟩ | hother
  · simp [readCode_end digits hend] at h
  · rw [readCode_brace digits hu] at h
    exact (inBraces_suffix bracedCode_suffix h).trans
      ((takeRun_skip_suffix f _ _ u).trans (Flags.tail_suffix_of_skip hu))
  · rw [readCode_other digits hother, codeOfDigits_eq] at h
    obtain ⟨run, hrun, -⟩ := made_eq_some.mp h
    exact (takeExactly_suffix hrun).trans (f.skip_suffix s)

theorem bracedProperty_suffix {negated : Bool} {run : List Char} {e : Escape}
    (h : bracedProperty negated run s = some (e, rest)) : rest <:+ s := by
  obtain ⟨p, -, heq⟩ := Option.map_eq_some_iff.mp h
  obtain ⟨-, rfl⟩ := Prod.mk.inj heq
  exact List.suffix_refl _

theorem readProperty_suffix {negated : Bool} {e : Escape}
    (h : readProperty f negated s = some (e, rest)) : rest <:+ s := by
  rcases hskip : f.skip s with _ | ⟨c, u⟩
  · simp [readProperty_end negated hskip] at h
  have hu := Flags.tail_suffix_of_skip hskip
  by_cases hbrace : c = '\x7b'
  · subst hbrace
    rw [readProperty_brace negated hskip] at h
    exact (inBraces_suffix bracedProperty_suffix h).trans ((takeRun_skip_suffix f _ _ u).trans hu)
  by_cases hback : c = '\\'
  · subst hback
    simp [readProperty_backslash negated hskip] at h
  · rw [readProperty_letter negated hskip hbrace hback] at h
    obtain ⟨p, -, heq⟩ := Option.map_eq_some_iff.mp h
    obtain ⟨-, rfl⟩ := Prod.mk.inj heq
    exact hu

theorem bracedBoundary_suffix {run : List Char} {e : Escape}
    (h : bracedBoundary run s = some (e, rest)) : rest <:+ s := by
  unfold bracedBoundary at h
  split at h <;> simp_all

theorem readBoundary_suffix {e : Escape} (h : readBoundary f s = some (e, rest)) : rest <:+ s := by
  by_cases hbrace : ∃ u, s = '\x7b' :: u
  · obtain ⟨u, rfl⟩ := hbrace
    rw [readBoundary_brace] at h
    have hskip := f.skip_suffix u
    split at h
    · simp at h
    · rename_i c v hcv
      split at h
      · exact (inBraces_suffix bracedBoundary_suffix h).trans ((takeRun_suffix f _ _ _).trans
          ((hcv ▸ hskip).trans (List.suffix_cons _ u)))
      · obtain ⟨-, rfl⟩ := Prod.mk.inj (Option.some.inj h)
        exact List.suffix_refl _
  · rw [readBoundary_other fun u hu => hbrace ⟨u, hu⟩] at h
    obtain ⟨-, rfl⟩ := Prod.mk.inj (Option.some.inj h)
    exact List.suffix_refl _

theorem EscapeForm.read_suffix {f : Flags} {form : EscapeForm} {s rest : List Char} {e : Escape}
    (h : form.read f s = some (e, rest)) : rest <:+ s := by
  cases form with
  | code digits => exact readCode_suffix h
  | property negated => exact readProperty_suffix h
  | boundary => exact readBoundary_suffix h
  | plain e =>
      obtain ⟨-, rfl⟩ := Prod.mk.inj (Option.some.inj h)
      exact List.suffix_refl _
  | none => simp [EscapeForm.read] at h

theorem readEscape_suffix {f : Flags} {s rest : List Char} {e : Escape}
    (h : readEscape f s = some (e, rest)) : ∃ c s', s = c :: s' ∧ rest <:+ s' := by
  cases s with
  | nil => simp [readEscape] at h
  | cons c s => exact ⟨c, s, rfl, EscapeForm.read_suffix ((readEscape_cons f c s).symm.trans h)⟩

/-! ## Bracket sets -/

theorem readHyphens_suffix (f : Flags) : ∀ (n : Nat) (frame : SetFrame) (s : List Char),
    (readHyphens f n frame s).2 <:+ s
  | 0, frame, s => by cases s <;> exact List.suffix_refl _
  | n + 1, frame, s => by
      unfold readHyphens
      split
      · rename_i heq
        obtain rfl := Nat.succ.inj heq
        exact ((readHyphens_suffix f _ _ _).trans (f.skip_suffix _)).trans (List.suffix_cons _ _)
      · exact List.suffix_refl _

theorem openSign_suffix (f : Flags) (s : List Char) : (openSign f s).2 <:+ s := by
  unfold openSign
  split
  · rename_i rest hskip
    exact (f.skip_suffix rest).trans (Flags.tail_suffix_of_skip hskip)
  · exact f.skip_suffix s

theorem openLiteral_suffix (f : Flags) (start : SetFrame × List Char) :
    (openLiteral f start).2 <:+ start.2 := by
  unfold openLiteral
  split
  · rename_i rest hparts hs
    rw [hs]
    exact (f.skip_suffix rest).trans (List.suffix_cons _ rest)
  · exact List.suffix_refl _

theorem openSet_suffix (f : Flags) (s : List Char) : (openSet f s).2 <:+ s := by
  rw [openSet_eq]
  exact (openLiteral_suffix f _).trans
    ((readHyphens_suffix f _ _ _).trans (openSign_suffix f s))

theorem namedSetIn_suffix {negated : Bool} {set : Option CharSet}
    (h : namedSetIn f negated s = some (set, rest)) : ':' :: ']' :: rest <:+ s := by
  rw [namedSetIn_eq] at h
  obtain ⟨u, hafter, h⟩ := Option.bind_eq_some_iff.mp h
  obtain ⟨named, -, heq⟩ := Option.map_eq_some_iff.mp h
  obtain ⟨-, rfl⟩ := Prod.mk.inj heq
  change [':', ']'] ++ u <:+ s
  rw [← after?_eq_some.mp hafter]
  exact List.dropWhile_suffix _

theorem namedSign_suffix (s : List Char) : (namedSign s).2 <:+ s := by
  unfold namedSign
  split
  · exact List.suffix_cons _ _
  · exact List.suffix_refl _

/-- The name and its end are read behind the colon. -/
theorem readNamedSet_ends {set : Option CharSet} (h : readNamedSet f s = some (set, rest)) :
    ∃ u, s = ':' :: u ∧ ':' :: ']' :: rest <:+ (namedSign u).2 := by
  rcases s with _ | ⟨c, u⟩
  · simp [readNamedSet] at h
  by_cases hc : c = ':'
  · subst hc
    rw [readNamedSet_colon] at h
    exact ⟨u, rfl, namedSetIn_suffix h⟩
  · simp [readNamedSet_ne hc] at h

theorem readNamedSet_suffix {set : Option CharSet} (h : readNamedSet f s = some (set, rest)) :
    rest <:+ s := by
  obtain ⟨u, rfl, hu⟩ := readNamedSet_ends h
  exact ((List.suffix_append [':', ']'] rest).trans hu).trans
    ((namedSign_suffix u).trans (List.suffix_cons _ u))

theorem readSetItem_suffix {item : SetItem} (h : readSetItem f s = some (item, rest)) :
    ∃ c s', s = c :: s' ∧ rest <:+ s' := by
  rcases s with _ | ⟨c, u⟩
  · simp [readSetItem] at h
  refine ⟨c, u, rfl, ?_⟩
  by_cases hc : c = '\\'
  · subst hc
    rw [readSetItem_backslash] at h
    obtain ⟨e, he, -⟩ := made_eq_some.mp h
    obtain ⟨d, v, rfl, hv⟩ := readEscape_suffix he
    exact hv.trans (List.suffix_cons d v)
  · rw [readSetItem_cons hc] at h
    obtain ⟨-, rfl⟩ := Prod.mk.inj (Option.some.inj h)
    exact List.suffix_refl _

/-- A part that stands alone leaves the text after it as it is. -/
theorem SetItem.alone_eq {first : SetItem} {u rest : List Char} {part : SetPiece}
    (h : first.alone f u = some (part, rest)) :
    rest = u ∧ ∀ v, first.alone f v = some (part, v) := by
  cases first with
  | char c =>
      obtain ⟨set, hset, heq⟩ := Option.map_eq_some_iff.mp h
      obtain ⟨rfl, rfl⟩ := Prod.mk.inj heq
      exact ⟨rfl, fun v => by rw [SetItem.alone, hset]; rfl⟩
  | set whole =>
      obtain ⟨rfl, rfl⟩ := Prod.mk.inj (Option.some.inj h)
      exact ⟨rfl, fun v => rfl⟩

theorem SetItem.upTo_eq {first : SetItem} {hi : Char} {u rest : List Char}
    {part : SetPiece} (h : first.upTo f hi u = some (part, rest)) :
    rest = u ∧ ∀ v, first.upTo f hi v = some (part, v) := by
  cases first with
  | char lo =>
      simp only [SetItem.upTo] at h ⊢
      split at h
      · rename_i hrange
        obtain ⟨rfl, rfl⟩ := Prod.mk.inj (Option.some.inj h)
        exact ⟨rfl, fun v => by rw [if_pos hrange]⟩
      · simp at h
  | set whole => simp [SetItem.upTo] at h

theorem SetItem.hyphen_suffix {first : SetItem} {part : SetPiece}
    (h : first.hyphen f s = some (part, rest)) : rest <:+ '-' :: s := by
  unfold SetItem.hyphen at h
  split at h
  · exact (SetItem.alone_eq h).1 ▸ List.suffix_refl _
  · split at h
    · rename_i hi u hhi
      obtain ⟨c, v, hv, hu⟩ := readSetItem_suffix hhi
      rw [(SetItem.upTo_eq h).1]
      exact ((hu.trans (hv ▸ List.suffix_cons c v)).trans (f.skip_suffix s)).trans
        (List.suffix_cons _ s)
    · simp at h

theorem SetItem.behind_suffix {first : SetItem} {part : SetPiece}
    (h : first.behind f s = some (part, rest)) : rest <:+ s := by
  rcases next_cases '-' s with rfl | ⟨u, rfl⟩ | hother
  · simp [SetItem.behind] at h
  · exact SetItem.hyphen_suffix h
  · rw [first.behind_other hother] at h
    exact (SetItem.alone_eq h).1 ▸ List.suffix_refl _

theorem readSetPart_suffix {part : SetPiece} (h : readSetPart f s = some (part, rest)) :
    ∃ c s', s = c :: s' ∧ rest <:+ s' := by
  rw [readSetPart_eq] at h
  obtain ⟨⟨first, u⟩, hitem, hbehind⟩ := Option.bind_eq_some_iff.mp h
  obtain ⟨c, s', rfl, hu⟩ := readSetItem_suffix hitem
  exact ⟨c, s', rfl, (SetItem.behind_suffix hbehind).trans ((f.skip_suffix u).trans hu)⟩

/-- With this fuel whatever is read of a set ends with its closing bracket. -/
def SetCloses (f : Flags) (n : Nat) : Prop :=
  ∀ {frame : SetFrame} {outer : List SetFrame} {s rest : List Char} {piece : SetPiece},
    readSet f n frame outer s = some (piece, rest) → ']' :: rest <:+ s

variable {n : Nat} {frame : SetFrame} {outer : List SetFrame} {piece : SetPiece}

theorem readSetOpen_closes (hn : SetCloses f n)
    (h : readSetOpen f n frame outer s = some (piece, rest)) : ']' :: rest <:+ s := by
  unfold readSetOpen at h
  split at h
  · rename_i set u hnamed
    exact (hn h).trans (readNamedSet_suffix hnamed)
  · simp at h
  · exact (hn h).trans (openSet_suffix f s)

theorem readSetClose_closes (hn : SetCloses f n)
    (h : readSetClose f n frame outer s = some (piece, rest)) : ']' :: rest <:+ ']' :: s := by
  unfold readSetClose at h
  split at h
  · simp at h
  · obtain ⟨-, rfl⟩ := Prod.mk.inj (Option.some.inj h)
    exact List.suffix_refl _
  · exact (hn h).trans (List.suffix_cons _ s)

theorem readSetNext_closes (hn : SetCloses f n)
    (h : readSetNext f n frame outer s = some (piece, rest)) :
    ∃ c u, s = c :: u ∧ ']' :: rest <:+ u := by
  unfold readSetNext at h
  split at h
  · rename_i op u hop
    obtain ⟨c, rfl, -⟩ := readSetOp_eq_some.mp hop
    exact ⟨c, c :: u, rfl, (hn h).trans (List.suffix_cons c u)⟩
  · obtain ⟨⟨part, u⟩, hpart, hrest⟩ := Option.bind_eq_some_iff.mp h
    obtain ⟨c, v, rfl, hu⟩ := readSetPart_suffix hpart
    exact ⟨c, v, rfl, (hn hrest).trans hu⟩

/-- A bracket set ends with a closing bracket. -/
theorem readSet_closes : ∀ {n : Nat}, SetCloses f n
  | 0, _, _, _, _, _, h => by simp [readSet] at h
  | n + 1, frame, outer, s, rest, piece, h => by
      refine List.IsSuffix.trans ?_ (f.skip_suffix s)
      rcases next_cases '[' (f.skip s) with hend | ⟨u, hu⟩ | hopen
      · simp [readSet_end n hend] at h
      · rw [readSet_open n hu] at h
        rw [hu]
        exact (readSetOpen_closes readSet_closes h).trans (List.suffix_cons _ u)
      · rcases next_cases ']' (f.skip s) with hend | ⟨u, hu⟩ | hclose
        · exact absurd hend hopen.1
        · rw [readSet_close n hu] at h
          rw [hu]
          exact readSetClose_closes readSet_closes h
        · rw [readSet_next n hopen hclose] at h
          obtain ⟨c, u, hu, hrest⟩ := readSetNext_closes readSet_closes h
          exact hrest.trans (hu ▸ List.suffix_cons c u)

/-! ## Groups and repetitions -/

/-- A name leaves the text after its bracket as it is. -/
theorem nameIn_eq_some {run name : List Char} (h : nameIn (run, s) = some (name, rest)) :
    ∃ d, s = d :: rest ∧ ∀ v, nameIn (run, d :: v) = some (name, v) := by
  unfold nameIn at h
  split at h
  · rename_i heq
    obtain ⟨rfl, rfl⟩ := Prod.mk.inj heq
    split at h
    · rename_i hok
      obtain ⟨rfl, rfl⟩ := Prod.mk.inj (Option.some.inj h)
      exact ⟨_, rfl, fun v => if_pos hok⟩
    · simp at h
  · simp at h

theorem readName_suffix {name : List Char} (h : readName s = some (name, rest)) :
    '>' :: rest <:+ s := by
  rw [readName_eq] at h
  obtain ⟨d, hdrop, -⟩ := nameIn_eq_some h
  have hd : d = '>' := by simpa using head_of_dropWhile hdrop
  rw [← hd, ← hdrop]
  exact List.dropWhile_suffix _

theorem readSwitches_suffix : ∀ {seen : List Char} {on waits : Bool} {f f' : Flags} {e : Bool}
    {s rest : List Char}, readSwitches seen on waits f s = some (f', e, rest) → rest <:+ s
  | _, _, _, _, _, _, [], _, h => by simp [readSwitches] at h
  | seen, on, waits, f, f', e, c :: s, rest, h => by
      rw [readSwitches] at h
      split at h
      · split at h
        · simp at h
        · simp only [Option.some.injEq, Prod.mk.injEq] at h
          exact h.2.2 ▸ List.suffix_refl _
      · split at h
        · simp at h
        · split at h
          · exact (readSwitches_suffix h).trans (List.suffix_cons c s)
          · split at h
            · exact (readSwitches_suffix h).trans (List.suffix_cons c s)
            · simp at h

theorem Move.named_suffix {names : List (List Char)} {m : Move}
    (h : Move.named f names s = some (m, rest)) : rest <:+ s := by
  unfold Move.named at h
  split at h
  · rename_i name u hname
    split at h
    · simp at h
    · obtain ⟨-, rfl⟩ := Prod.mk.inj (Option.some.inj h)
      exact (List.suffix_cons _ u).trans (readName_suffix hname)
  · simp at h

theorem Move.switches_suffix {names : List (List Char)} {m : Move}
    (h : Move.switches f names s = some (m, rest)) : rest <:+ s := by
  unfold Move.switches at h
  split at h
  · rename_i hread
    obtain ⟨-, rfl⟩ := Prod.mk.inj (Option.some.inj h)
    exact (List.suffix_cons _ _).trans (readSwitches_suffix hread)
  · simp at h
  · rename_i hread
    obtain ⟨-, rfl⟩ := Prod.mk.inj (Option.some.inj h)
    exact (List.suffix_cons _ _).trans (readSwitches_suffix hread)
  · simp at h

theorem Move.groupAt_suffix {names : List (List Char)} {m : Move}
    (h : Move.groupAt f names s = some (m, rest)) : rest <:+ s := by
  have hafter : ∀ {mark u}, after? mark s = some u → u <:+ s := fun hmark =>
    after?_eq_some.mp hmark ▸ List.suffix_append _ _
  unfold Move.groupAt at h
  split at h
  · exact (Move.named_suffix h).trans (hafter (by assumption))
  · split at h
    · split at h
      · exact (Move.named_suffix h).trans (hafter (by assumption))
      · simp at h
    · split at h
      · exact (Move.switches_suffix h).trans (hafter (by assumption))
      · obtain ⟨-, rfl⟩ := Prod.mk.inj (Option.some.inj h)
        exact List.suffix_refl _

theorem behindCount_suffix (f : Flags) (s : List Char) : behindCount f s <:+ s := by
  unfold behindCount
  split
  · exact (f.skip_suffix _).trans (List.dropWhile_suffix _)
  · exact List.suffix_refl _

theorem readCount_suffix {n : Nat} (h : readCount f s = some (n, rest)) : rest <:+ s := by
  rw [readCount_eq] at h
  dsimp only at h
  split at h
  · simp at h
  · obtain ⟨-, rfl⟩ := Prod.mk.inj (Option.some.inj h)
    exact (behindCount_suffix f _).trans
      ((takeRun_suffix f _ _ _).trans (List.dropWhile_suffix _))

theorem upperBound_suffix {low min : Nat} {max : Option Nat}
    (h : upperBound f low s = some (min, max, rest)) : '\x7d' :: rest <:+ s := by
  unfold upperBound at h
  split at h
  · rename_i u hbrace
    obtain rfl := after?_eq_some.mp hbrace
    simp only [Option.some.injEq, Prod.mk.injEq] at h
    obtain ⟨-, -, rfl⟩ := h
    exact List.suffix_refl _
  · obtain ⟨⟨high, u⟩, hhigh, hclose⟩ := Option.bind_eq_some_iff.mp h
    dsimp only at hclose
    split at hclose
    · obtain ⟨v, hv, heq⟩ := Option.map_eq_some_iff.mp hclose
      simp only [Prod.mk.injEq] at heq
      obtain ⟨-, -, rfl⟩ := heq
      obtain rfl := after?_eq_some.mp hv
      exact readCount_suffix hhigh
    · simp at hclose

theorem boundsBehind_suffix {low min : Nat} {max : Option Nat}
    (h : boundsBehind f low s = some (min, max, rest)) : '\x7d' :: rest <:+ s := by
  unfold boundsBehind at h
  split at h
  · rename_i u hcomma
    obtain rfl := after?_eq_some.mp hcomma
    exact ((upperBound_suffix h).trans (f.skip_suffix u)).trans (List.suffix_cons _ u)
  · obtain ⟨v, hv, heq⟩ := Option.map_eq_some_iff.mp h
    simp only [Prod.mk.injEq] at heq
    obtain ⟨-, -, rfl⟩ := heq
    obtain rfl := after?_eq_some.mp hv
    exact List.suffix_refl _

/-- The bounds of a repetition end with their brace. -/
theorem readBounds_suffix {min : Nat} {max : Option Nat}
    (h : readBounds f s = some (min, max, rest)) : '\x7d' :: rest <:+ f.skip s := by
  rw [readBounds_eq] at h
  obtain ⟨⟨low, u⟩, hlow, hbounds⟩ := Option.bind_eq_some_iff.mp h
  exact (boundsBehind_suffix hbounds).trans (readCount_suffix hlow)

theorem dropLazy_suffix (s : List Char) : dropLazy s <:+ s := by
  unfold dropLazy
  split
  · exact List.suffix_cons _ _
  · exact List.suffix_refl _

/-! ## Items -/

theorem nextMove_suffix {names : List (List Char)} {c : Char} {m : Move}
    (h : nextMove f names c s = some (m, rest)) : rest <:+ s := by
  unfold nextMove at h
  split at h
  case h_1 =>
      rw [Move.group_eq] at h
      exact (Move.groupAt_suffix h).trans (f.skip_suffix s)
  case h_4 =>
      obtain ⟨⟨piece, u⟩, hset, heq⟩ := Option.map_eq_some_iff.mp h
      obtain ⟨-, rfl⟩ := Prod.mk.inj heq
      exact ((List.suffix_cons _ u).trans (readSet_closes hset)).trans (openSet_suffix f s)
  case h_8 =>
      obtain ⟨⟨min, max, u⟩, hbounds, heq⟩ := Option.map_eq_some_iff.mp h
      obtain ⟨-, rfl⟩ := Prod.mk.inj heq
      exact ((dropLazy_suffix _).trans (f.skip_suffix u)).trans
        ((List.suffix_cons _ u).trans ((readBounds_suffix hbounds).trans (f.skip_suffix s)))
  case h_9 =>
      obtain ⟨regex, -, heq⟩ := Option.map_eq_some_iff.mp h
      obtain ⟨-, rfl⟩ := Prod.mk.inj heq
      exact List.suffix_refl _
  case h_12 =>
      split at h
      · rename_i escape u hescape
        obtain ⟨regex, -, heq⟩ := Option.map_eq_some_iff.mp h
        obtain ⟨-, rfl⟩ := Prod.mk.inj heq
        obtain ⟨d, v, rfl, hu⟩ := readEscape_suffix hescape
        exact hu.trans (List.suffix_cons d v)
      · simp at h
  all_goals
      obtain ⟨-, rfl⟩ := Prod.mk.inj (Option.some.inj h)
      first | exact dropLazy_suffix s | exact List.suffix_refl _

theorem Reader.step_suffix {r r' : Reader} {c : Char} (h : r.step c s = some (r', rest)) :
    rest <:+ s := by
  obtain ⟨m, hm, -⟩ := step_eq_some.mp h
  exact nextMove_suffix hm

end Gapfill.Pattern
