import Gapfill.Proofs.Pattern.Reading
import Gapfill.Proofs.Pattern.SlashedSets

/-!
# Patterns with escaped slashes

The equations for the readers of groups and repetitions, and for items as a whole:
an item asks for the same move, whether its slashes are escaped or not
(`nextMove_slashed`). So the reader takes the same steps to the same end
(`Reader.run_slashed`), and a pattern denotes what it denotes with its slashes
escaped (`parse_slashed`).
-/

namespace Gapfill.Pattern

variable {f : Flags} {names : List (List Char)}

/-! ## Groups -/

theorem all_isNameChar_of_not_clean {name : List Char} (h : ¬ Clean name) :
    name.all isNameChar = false := by
  obtain ⟨c, hc, hmarked⟩ := exists_of_not_clean h
  rw [List.all_eq_false]
  refine ⟨c, hc, ?_⟩
  rcases hmarked with rfl | rfl <;> decide +kernel

theorem nameIn_eq_none {name rest : List Char} (h : ¬ Clean name) : nameIn (name, rest) = none := by
  unfold nameIn
  split
  · rename_i heq
    obtain ⟨rfl, rfl⟩ := Prod.mk.inj heq
    rw [all_isNameChar_of_not_clean h, Bool.and_false]
    rfl
  · rfl

theorem readName_slashed (s : List Char) :
    readName (slashed s) = (readName s).map slashRest := by
  rw [readName_eq, readName_eq]
  -- the bracket at the end is the same one, or a slash before it spoils the name
  rcases span_slashed (p := (· != '>')) (by decide) s with ⟨hname, hrest⟩ | ⟨hname, hname'⟩
  · rw [hname, hrest]
    rcases hdrop : s.dropWhile (· != '>') with _ | ⟨d, u⟩
    · rcases s.takeWhile (· != '>') with _ | ⟨c, name⟩ <;> rfl
    · have hd : d = '>' := by simpa using head_of_dropWhile hdrop
      rw [hd, slashed_cons (by decide)]
      rcases s.takeWhile (· != '>') with _ | ⟨c, name⟩
      · rfl
      · rw [nameIn, nameIn]
        split <;> rfl
  · rw [nameIn_eq_none hname, nameIn_eq_none hname']
    rfl

theorem Move.named_slashed (s : List Char) :
    Move.named f names (slashed s) = (Move.named f names s).map slashRest := by
  unfold Move.named
  rw [readName_slashed]
  rcases readName s with _ | ⟨name, rest⟩
  · rfl
  · simp only [Option.map_some, slashRest]
    split <;> rfl

/-- What was read, in two parts, with the slashes of the rest escaped. -/
def slashLast {α β : Type} (read : α × β × List Char) : α × β × List Char :=
  (read.1, slashRest read.2)

/-- No letter of a switch is a slash or a backslash. -/
theorem readSwitches_not_kept {c : Char} (hc : ¬ Kept c) (seen : List Char) (on waits : Bool)
    (s : List Char) : readSwitches seen on waits f (c :: s) = none := by
  have hset : f.set? c on = none := by
    rcases not_kept_iff.mp hc with rfl | rfl <;> rfl
  have hsigns : (c == ':' || c == ')') = false ∧ (c == '-') = false := by
    rcases not_kept_iff.mp hc with rfl | rfl <;> decide
  rw [readSwitches, hset, hsigns.1, hsigns.2, if_neg Bool.false_ne_true]
  split <;> simp

theorem readSwitches_slashed : ∀ (seen : List Char) (on waits : Bool) (f : Flags) (s : List Char),
    readSwitches seen on waits f (slashed s) = (readSwitches seen on waits f s).map slashLast
  | _, _, _, _, [] => rfl
  | seen, on, waits, f, c :: s => by
      by_cases hc : Kept c
      · rw [slashed_cons hc, readSwitches, readSwitches]
        split
        · split
          · rfl
          · rw [Option.map_some, slashLast, slashRest, slashed_cons hc]
        · split
          · rfl
          · split
            · exact readSwitches_slashed _ _ _ _ s
            · cases f.set? c on with
              | none => rfl
              | some f => exact readSwitches_slashed _ _ _ _ s
      · rw [readSwitches_not_kept hc]
        rcases not_kept_iff.mp hc with rfl | rfl
        · rw [slashed_slash, readSwitches_not_kept (by decide)]
          rfl
        · rw [slashed_backslash, readSwitches_not_kept (by decide)]
          rfl

/-- Switches end at a colon or a closing bracket. -/
theorem readSwitches_rest : ∀ {seen : List Char} {on waits bare : Bool} {f f' : Flags}
    {s rest : List Char}, readSwitches seen on waits f s = some (f', bare, rest) →
      ∃ c u, Kept c ∧ rest = c :: u
  | _, _, _, _, _, _, [], _, h => by simp [readSwitches] at h
  | seen, on, waits, bare, f, f', c :: s, rest, h => by
      rw [readSwitches] at h
      split at h
      · rename_i hend
        split at h
        · simp at h
        · simp only [Option.some.injEq, Prod.mk.injEq] at h
          refine ⟨c, s, ?_, h.2.2.symm⟩
          rcases Bool.or_eq_true_iff.mp hend with hc | hc <;> rw [eq_of_beq hc] <;> decide
      · split at h
        · simp at h
        · split at h
          · exact readSwitches_rest h
          · split at h
            · exact readSwitches_rest h
            · simp at h

theorem Move.switches_slashed (s : List Char) :
    Move.switches f names (slashed s) = (Move.switches f names s).map slashRest := by
  unfold Move.switches
  rw [readSwitches_slashed]
  rcases hread : readSwitches [] true false f s with _ | ⟨flags, bare, rest⟩
  · rfl
  · obtain ⟨c, u, hc, rfl⟩ := readSwitches_rest hread
    simp only [Option.map_some, slashLast, slashRest, slashed_cons hc]
    by_cases hcolon : c = ':'
    · subst hcolon
      rfl
    · cases bare <;> simp [hcolon, slashRest]

theorem Move.groupAt_slashed (s : List Char) :
    Move.groupAt f names (slashed s) = (Move.groupAt f names s).map slashRest := by
  unfold Move.groupAt
  rw [after?_slashed (by decide), after?_slashed (by decide), after?_slashed (by decide)]
  rcases after? ['?', 'P', '<'] s with _ | rest
  · rcases after? ['?', '<'] s with _ | rest
    · rcases after? ['?'] s with _ | rest
      · rfl
      · exact Move.switches_slashed rest
    · simp only [Option.map_none, Option.map_some, after?_slashed (show Clean ['='] by decide),
        after?_slashed (show Clean ['!'] by decide), Option.map_eq_none_iff]
      split
      · exact Move.named_slashed rest
      · rfl
  · exact Move.named_slashed rest

theorem Move.group_slashed (s : List Char) :
    Move.group f names (slashed s) = (Move.group f names s).map slashRest := by
  rw [Move.group_eq, Move.group_eq, f.skip_slashed, Move.groupAt_slashed]

/-! ## Repetitions -/

theorem behindCount_slashed (s : List Char) :
    behindCount f (slashed s) = slashed (behindCount f s) := by
  have hhead : (slashed s).head?.any isBlank = s.head?.any isBlank := by
    rw [head?_slashed]
    cases s.head? with
    | none => rfl
    | some c =>
        simp only [Option.map_some, Option.any_some, leading]
        split
        · rename_i hc
          rw [hc]
          decide
        · rfl
  unfold behindCount
  rw [hhead, dropWhile_slashed (by decide) (by decide), f.skip_slashed]
  split <;> rfl

theorem readCount_slashed (s : List Char) :
    readCount f (slashed s) = (readCount f s).map slashRest := by
  have hlen := (List.dropWhile_suffix (l := s) isBlank).length_le
  have hlen' := (List.dropWhile_suffix (l := slashed s) isBlank).length_le
  rw [dropWhile_slashed (by decide) (by decide)] at hlen'
  rw [readCount_eq, readCount_eq, dropWhile_slashed (by decide) (by decide),
    takeRun_slashed_of_not (by decide) (by decide) hlen hlen']
  dsimp only [slashRest]
  rw [behindCount_slashed]
  split <;> rfl

theorem dropLazy_slashed (s : List Char) : dropLazy (slashed s) = slashed (dropLazy s) := by
  rcases slashed_next (k := '?') (by decide) s with ⟨rfl, -⟩ | ⟨u, rfl, h⟩ | ⟨h, h'⟩
  · rfl
  · rw [h]
    rfl
  · have hother : ∀ {v : List Char}, Other '?' v → dropLazy v = v := by
      intro v hv
      unfold dropLazy
      split
      · exact absurd rfl (hv.2 _)
      · rfl
    rw [hother h, hother h']

theorem upperBound_slashed (low : Nat) (s : List Char) :
    upperBound f low (slashed s) = (upperBound f low s).map slashLast := by
  unfold upperBound
  rw [after?_slashed (by decide), readCount_slashed]
  rcases after? ['\x7d'] s with _ | rest
  · rcases readCount f s with _ | ⟨high, u⟩
    · rfl
    · simp only [Option.map_none, Option.map_some, Option.bind_some, slashRest,
        after?_slashed (show Clean ['\x7d'] by decide)]
      split
      · rw [Option.map_map, Option.map_map]
        rfl
      · rfl
  · rfl

theorem boundsBehind_slashed (low : Nat) (s : List Char) :
    boundsBehind f low (slashed s) = (boundsBehind f low s).map slashLast := by
  unfold boundsBehind
  rw [after?_slashed (by decide), after?_slashed (by decide)]
  rcases after? [','] s with _ | rest
  · simp only [Option.map_none, Option.map_map]
    rfl
  · simp only [Option.map_some, f.skip_slashed]
    exact upperBound_slashed low _

theorem readBounds_slashed (s : List Char) :
    readBounds f (slashed s) = (readBounds f s).map slashLast := by
  rw [readBounds_eq, readBounds_eq, f.skip_slashed, readCount_slashed]
  rcases readCount f (f.skip s) with _ | ⟨low, rest⟩
  · rfl
  · exact boundsBehind_slashed low rest

/-! ## Items -/

theorem nextMove_kept {c : Char} (hc : Kept c) (s : List Char) :
    nextMove f names c (slashed s) = (nextMove f names c s).map slashRest := by
  unfold nextMove
  split
  · exact Move.group_slashed s
  · rfl
  · rfl
  · rw [openSet_slashed]
    dsimp only [slashRest]
    rw [readSet_slashed _ _ _ _ (Nat.lt_succ_self _) (Nat.lt_succ_self _), Option.map_map,
      Option.map_map]
    rfl
  · simp only [dropLazy_slashed]
    rfl
  · simp only [dropLazy_slashed]
    rfl
  · simp only [dropLazy_slashed]
    rfl
  · rw [readBounds_slashed]
    rcases readBounds f s with _ | ⟨min, max, rest⟩
    · rfl
    · simp only [Option.map_some, slashLast, slashRest, f.skip_slashed, dropLazy_slashed]
  · cases dot? f <;> rfl
  · rfl
  · rfl
  · exact absurd rfl hc.2
  · rfl

/-- Wherever an item begins, it asks for the same with its slashes escaped. -/
theorem nextMove_slashed {c d : Char} {s t : List Char} (h : slashed (c :: s) = d :: t) :
    nextMove f names d t = (nextMove f names c s).map slashRest := by
  rcases slashed_cases (c :: s) with hs | ⟨u, hs⟩ | ⟨u, hs⟩ | ⟨k, u, hk, hs⟩
  · exact absurd hs (List.cons_ne_nil _ _)
  · obtain ⟨rfl, rfl⟩ := List.cons.inj hs
    obtain ⟨rfl, rfl⟩ := List.cons.inj ((slashed_slash s).symm.trans h)
    rw [nextMove_backslash, readEscape_slash]
    rfl
  · obtain ⟨rfl, rfl⟩ := List.cons.inj hs
    obtain ⟨rfl, rfl⟩ := List.cons.inj ((slashed_backslash s).symm.trans h)
    rw [nextMove_backslash, nextMove_backslash, readEscape_slashed]
    exact bind_slashRest _ fun escape => (escapeRegex? f escape).map (Move.add f)
  · obtain ⟨rfl, rfl⟩ := List.cons.inj hs
    obtain ⟨rfl, rfl⟩ := List.cons.inj ((slashed_cons hk s).symm.trans h)
    exact nextMove_kept hk s

namespace Reader

theorem step_slashed (r : Reader) {c d : Char} {s t : List Char} (h : slashed (c :: s) = d :: t) :
    r.step d t = (r.step c s).map slashRest := by
  rw [step_eq_follow, step_eq_follow, nextMove_slashed h]
  rcases nextMove r.flags r.names c s with _ | ⟨m, rest⟩
  · rfl
  · simp only [follow, Option.map_some, Option.bind_some, slashRest, Option.map_map]
    rfl

/-- The reader takes the same steps over the text with its slashes escaped. The induction is on the
fuel, which counts no character twice on either side. -/
theorem run_slashed : ∀ {n n' : Nat} (r : Reader) {s : List Char}, s.length < n →
    (slashed s).length < n' → run n' r (slashed s) = run n r s
  | 0, _, _, _, hn, _ => absurd hn (Nat.not_lt_zero _)
  | _ + 1, 0, _, _, _, hn' => absurd hn' (Nat.not_lt_zero _)
  | n + 1, n' + 1, r, s, hn, hn' => by
      have hskip := r.flags.skip_slashed s
      have hlen := Nat.lt_of_le_of_lt (r.flags.skip_suffix s).length_le hn
      have hlen' := Nat.lt_of_le_of_lt (r.flags.skip_suffix (slashed s)).length_le hn'
      rw [run, run, hskip]
      rw [hskip] at hlen'
      rcases hs : r.flags.skip s with _ | ⟨c, u⟩
      · rfl
      · rw [hs] at hlen hlen'
        rcases ht : slashed (c :: u) with _ | ⟨d, t⟩
        · exact absurd (slashed_eq_nil ht) (List.cons_ne_nil _ _)
        · rw [ht] at hlen'
          dsimp only
          have hstep' := r.step_slashed ht
          rcases hstep : r.step c u with _ | ⟨r', v⟩
          · rw [hstep'.trans (congrArg _ hstep)]
            rfl
          · replace hstep' : r.step d t = some (r', slashed v) := by
              rw [hstep', hstep]
              rfl
            rw [hstep']
            exact run_slashed r'
              (Nat.lt_of_le_of_lt (step_suffix hstep).length_le (Nat.lt_of_succ_lt_succ hlen))
              (Nat.lt_of_le_of_lt (step_suffix hstep').length_le (Nat.lt_of_succ_lt_succ hlen'))

end Reader

/-- A pattern denotes what it denotes with its slashes escaped. -/
theorem parse_slashed (ignoreCase dotNewline : Bool) (text : List Char) :
    parse ignoreCase dotNewline (slashed text) = parse ignoreCase dotNewline text := by
  rw [parse, parse, Reader.run_slashed _ (Nat.lt_succ_self _) (Nat.lt_succ_self _)]

end Gapfill.Pattern
