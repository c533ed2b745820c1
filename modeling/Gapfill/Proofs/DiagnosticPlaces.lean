import Gapfill.Authored.FieldText
import Gapfill.Proofs.Authored.Places
import Gapfill.Proofs.Building

/-!
# Where the problems of a field stand

The blocks are read up to a fatal problem or up to the keys, and every key line
is judged at the place where it begins. Both phases tell their problems in the
order of the text, and the keys come behind the blocks; so the places in a list
of diagnostics never go backwards, and only the last problem can be a fatal one
(`parse_placed`). A pattern is tried only when nothing else is wrong. This is why
a list has places for all its problems or for none.
-/

namespace Gapfill

/-! ## Lines -/

theorem splitFrom_ne_nil : ∀ (text current : List Char),
    splitFrom ['\n'] 0 current text ≠ []
  | [], _ => List.cons_ne_nil _ _
  | c :: text, current => by
      rw [splitFrom]
      split
      · exact List.cons_ne_nil _ _
      · exact splitFrom_ne_nil _ _

/-- The text between the newlines is kept as it is. -/
theorem intercalate_splitFrom : ∀ (text current : List Char),
    ['\n'].intercalate (splitFrom ['\n'] 0 current text) = current.reverse ++ text
  | [], current => by simp [splitFrom]
  | c :: text, current => by
      rw [splitFrom]
      split
      · rename_i hc
        obtain ⟨next, lines, hlines⟩ :=
          List.exists_cons_of_ne_nil (splitFrom_ne_nil text [])
        have ih := intercalate_splitFrom text []
        obtain rfl : '\n' = c := by simpa using hc
        change ['\n'].intercalate (current.reverse :: splitFrom ['\n'] 0 [] text) = _
        rw [hlines] at ih ⊢
        rw [List.intercalate_cons_cons, ih]
        simp
      · rw [intercalate_splitFrom]
        simp

theorem newline_notMem_splitFrom : ∀ {text current : List Char}, '\n' ∉ current →
    ∀ line ∈ splitFrom ['\n'] 0 current text, '\n' ∉ line
  | [], current, h => by simpa [splitFrom] using h
  | c :: text, current, h => by
      rw [splitFrom]
      split
      · refine List.forall_mem_cons.mpr ⟨by simpa using h, ?_⟩
        exact newline_notMem_splitFrom List.not_mem_nil
      · rename_i hc
        refine newline_notMem_splitFrom fun hmem => (List.mem_cons.mp hmem).elim ?_ h
        rintro rfl
        exact hc (by simp)

theorem intercalate_splitLines (text : List Char) : ['\n'].intercalate (splitLines text) = text :=
  intercalate_splitFrom text []

theorem newline_notMem_splitLines (text : List Char) : ∀ line ∈ splitLines text, '\n' ∉ line :=
  newline_notMem_splitFrom List.not_mem_nil

/-! ## Key lines -/

theorem text_of_readKeyLine {line value : List Char} {name : String}
    (h : readKeyLine line = some (name, value)) : line = name.toList ++ '=' :: value := by
  unfold readKeyLine at h
  dsimp only at h
  split at h
  · rename_i value' hrest
    split at h
    · simp at h
    · obtain ⟨rfl, rfl⟩ := Prod.mk.inj (Option.some.inj h)
      rw [String.toList_ofList, ← hrest, List.takeWhile_append_dropWhile]
  · simp at h

theorem Key.name_of_ofName? {name : String} {key : Key} (h : Key.ofName? name = some key) :
    key.name = name := by
  simpa using List.find?_some h

/-- A problem of a line that goes on with `rest` from its place on and ends nothing. -/
def Problem.OfLine (before rest : List Char) (problem : Problem) : Prop :=
  problem.FoundAt before rest ∧ problem.isFatal = false

theorem Field.setKey_problem {field : Field} {key : Key} {value : List Char} {problem : Problem}
    (h : field.setKey key value = .error problem) (before after : List Char) :
    problem.OfLine before (key.name.toList ++ '=' :: after) := by
  cases key with
  | separator | feedback | comment => simp [setKey] at h
  | points =>
      simp only [setKey] at h
      split at h
      · simp at h
      · obtain rfl := Except.error.inj h
        have hkey : "points=".toList = Key.points.name.toList ++ ['='] := by decide
        exact ⟨⟨after, by rw [hkey, List.append_assoc, List.singleton_append]⟩, rfl⟩
  | size =>
      simp only [setKey] at h
      split at h
      · simp at h
      · obtain rfl := Except.error.inj h
        have hkey : "size=".toList = Key.size.name.toList ++ ['='] := by decide
        exact ⟨⟨after, by rw [hkey, List.append_assoc, List.singleton_append]⟩, rfl⟩

/-- Every problem of a line stands where the line begins. -/
theorem KeysState.readLine_problems (flavor : Flavor) (state : KeysState) (before : List Char)
    {line behind : List Char} (pos : Nat) (hline : '\n' ∉ line)
    (hbehind : behind.takeWhile (· != '\n') = []) :
    ∀ d ∈ (readLine flavor state pos line).2,
      ∃ problem, d = .at problem pos ∧ problem.OfLine before (line ++ behind) := by
  unfold readLine
  split
  · exact fun d hd => absurd hd List.not_mem_nil
  · split
    · refine List.forall_mem_singleton.mpr ⟨_, rfl, ?_, rfl⟩
      change (String.ofList line).toList = _
      rw [String.toList_ofList, List.takeWhile_append_of_pos, hbehind, List.append_nil]
      rintro c hc
      exact bne_iff_ne.mpr (ne_of_mem_of_not_mem hc hline)
    · rename_i name value hread
      obtain rfl := text_of_readKeyLine hread
      have hname : name.toList ++ ['='] <+: name.toList ++ '=' :: value ++ behind :=
        ⟨value ++ behind, by simp⟩
      have hunknown : (Problem.unknownKey name).OfLine before
          (name.toList ++ '=' :: value ++ behind) := ⟨hname, rfl⟩
      split
      · rename_i key hkey
        obtain rfl := Key.name_of_ofName? hkey
        split
        · have horder : ∀ d ∈ (if !state.allowed.contains key then
              [Diagnostic.at (.keyOrder key.name flavor.keyNames) pos] else []),
              ∃ problem, d = .at problem pos ∧
                problem.OfLine before (key.name.toList ++ '=' :: value ++ behind) := by
            split
            · exact List.forall_mem_singleton.mpr ⟨_, rfl, hname, rfl⟩
            · exact fun d hd => absurd hd List.not_mem_nil
          dsimp only
          split
          · exact horder
          · rename_i problem hproblem
            have hvalue := Field.setKey_problem hproblem before (value ++ behind)
            rw [← List.cons_append, ← List.append_assoc] at hvalue
            exact List.forall_mem_append.mpr
              ⟨horder, List.forall_mem_singleton.mpr ⟨problem, rfl, hvalue⟩⟩
        · exact List.forall_mem_singleton.mpr ⟨_, rfl, hunknown⟩
      · exact List.forall_mem_singleton.mpr ⟨_, rfl, hunknown⟩

/-- Problems at one place. -/
theorem Within.at_place {source before rest : List Char} {ds : List Diagnostic}
    (hsource : source = before ++ rest)
    (h : ∀ d ∈ ds, ∃ problem, d = .at problem (utf8Length before) ∧ problem.OfLine before rest) :
    Within source (utf8Length before) (utf8Length before) ds where
  located d hd := by
    obtain ⟨problem, rfl, hfound, -⟩ := h d hd
    exact ⟨before, rest, hsource, rfl, hfound⟩
  bounds d hd offset hoffset := by
    obtain ⟨problem, rfl, -⟩ := h d hd
    exact Option.some.inj hoffset ▸ ⟨Nat.le_refl _, Nat.le_refl _⟩
  ordered := by
    refine List.pairwise_of_forall_mem_list fun d hd d' hd' a ha b hb => ?_
    obtain ⟨problem, rfl, -⟩ := h d hd
    obtain ⟨problem', rfl, -⟩ := h d' hd'
    exact Nat.le_of_eq ((Option.some.inj ha).symm.trans (Option.some.inj hb))

namespace KeysState

variable {source : List Char} (flavor : Flavor)

theorem readLine_within (state : KeysState) {before line behind : List Char}
    (hsource : source = before ++ (line ++ behind)) (hline : '\n' ∉ line)
    (hbehind : behind.takeWhile (· != '\n') = []) :
    Within source (utf8Length before) (utf8Length before)
        (readLine flavor state (utf8Length before) line).2
      ∧ ∀ d ∈ (readLine flavor state (utf8Length before) line).2, d.problem.isFatal = false := by
  have hproblems := readLine_problems flavor state before (utf8Length before) hline hbehind
  refine ⟨Within.at_place hsource hproblems, fun d hd => ?_⟩
  obtain ⟨problem, rfl, -, hsoft⟩ := hproblems d hd
  exact hsoft

/-- Line after line is judged where it begins. -/
theorem readLines_within : ∀ {lines : List (List Char)} (state : KeysState) {before : List Char},
    (∀ line ∈ lines, '\n' ∉ line) → source = before ++ ['\n'].intercalate lines →
      Within source (utf8Length before) (utf8Length source)
          (readLines flavor state (utf8Length before) lines).2
        ∧ ∀ d ∈ (readLines flavor state (utf8Length before) lines).2, d.problem.isFatal = false
  | [], _, _, _, _ => ⟨.nil, fun _ hd => absurd hd List.not_mem_nil⟩
  | [line], state, before, hlines, hsource => by
      have hlast : source = before ++ (line ++ []) := by
        rw [hsource, List.intercalate_singleton, List.append_nil]
      obtain ⟨hwithin, hsoft⟩ := readLine_within flavor state hlast
        (hlines line List.mem_cons_self) rfl
      simp only [readLines, List.append_nil]
      exact ⟨hwithin.mono (Nat.le_refl _) (hsource ▸ utf8Length_le_append _ _), hsoft⟩
  | line :: next :: lines, state, before, hlines, hsource => by
      obtain ⟨hline, hrest⟩ := List.forall_mem_cons.mp hlines
      rw [List.intercalate_cons_cons, List.append_assoc, List.singleton_append] at hsource
      have hnext : source = (before ++ (line ++ ['\n'])) ++ ['\n'].intercalate (next :: lines) := by
        rw [hsource]
        simp
      have hlength : utf8Length (before ++ (line ++ ['\n'])) =
          utf8Length before + utf8Length line + 1 := by
        have hsize : '\n'.utf8Size = 1 := by decide
        simp [utf8Length, hsize, Nat.add_assoc]
      obtain ⟨hwithin, hsoft⟩ := readLine_within flavor state hsource hline
        (by simp)
      obtain ⟨hwithin', hsoft'⟩ := readLines_within
        (readLine flavor state (utf8Length before) line).1 hrest hnext
      have hend : utf8Length (before ++ (line ++ ['\n'])) ≤ utf8Length source :=
        hnext ▸ utf8Length_le_append _ _
      rw [hlength] at hwithin' hsoft' hend
      rw [readLines]
      refine ⟨(hwithin.mono (Nat.le_refl _) ?_).append ?_ hend hwithin',
        List.forall_mem_append.mpr ⟨hsoft, hsoft'⟩⟩ <;> omega

end KeysState

theorem readKeys_within {source before text : List Char} {flavor : Flavor} (field : Field)
    (hsource : source = before ++ text) :
    Within source (utf8Length before) (utf8Length source)
        (readKeys flavor field (utf8Length before) text).2
      ∧ ∀ d ∈ (readKeys flavor field (utf8Length before) text).2, d.problem.isFatal = false :=
  KeysState.readLines_within flavor _ (newline_notMem_splitLines text)
    (by rw [intercalate_splitLines, hsource])

/-! ## Whole fields -/

/-- Diagnostics as they are told for a refused source. -/
structure Placed (source : List Char) (diagnostics : List Diagnostic) : Prop where
  ne_nil : diagnostics ≠ []
  /-- Only the last problem may be one that ends the reading. -/
  fatal_last : ∀ d ∈ diagnostics.dropLast, d.problem.isFatal = false
  /-- All have places, or all are refused patterns without a place. -/
  located : (∀ d ∈ diagnostics, d.Located source)
    ∨ ∀ d ∈ diagnostics, d.offset = none
      ∧ ∃ pattern reason, d.problem = .invalidRegex pattern reason
  bounded : ∀ d ∈ diagnostics, ∀ offset ∈ d.offset, offset ≤ utf8Length source
  ordered : diagnostics.Pairwise Diagnostic.NotBehind

theorem Within.placed {source : List Char} {lo : Nat} {diagnostics : List Diagnostic}
    (h : Within source lo (utf8Length source) diagnostics) (hne : diagnostics ≠ [])
    (hfatal : ∀ d ∈ diagnostics.dropLast, d.problem.isFatal = false) :
    Placed source diagnostics where
  ne_nil := hne
  fatal_last := hfatal
  located := Or.inl h.located
  bounded d hd offset hoffset := (h.bounds d hd offset hoffset).2
  ordered := h.ordered

theorem Advance.placed {source : List Char} {lo : Nat} {diagnostics : List Diagnostic}
    (h : Advance source lo diagnostics none) : Placed source diagnostics := by
  cases h with
  | stops hwithin hsoft =>
      exact (hwithin.mono (Nat.le_refl _) (Nat.le_refl _)).placed
        (List.append_ne_nil_of_right_ne_nil _ (List.cons_ne_nil _ _))
        (by rwa [List.dropLast_concat])

theorem Field.compileProblems_placed {source : List Char} {field : Field}
    (hne : field.compileProblems ≠ []) : Placed source field.compileProblems := by
  have hproblem : ∀ d ∈ field.compileProblems,
      d.offset = none ∧ ∃ pattern reason, d.problem = .invalidRegex pattern reason := by
    intro d hd
    obtain ⟨sub, -, hsub⟩ := List.mem_filterMap.mp hd
    split at hsub
    · simp at hsub
    · obtain rfl := Option.some.inj hsub
      exact ⟨rfl, _, _, rfl⟩
  refine ⟨hne, fun d hd => ?_, Or.inr hproblem, fun d hd offset hoffset => ?_, ?_⟩
  · obtain ⟨pattern, reason, h⟩ := (hproblem d (List.mem_of_mem_dropLast hd)).2
    rw [h]
    rfl
  · rw [(hproblem d hd).1] at hoffset
    exact absurd hoffset (Option.not_mem_none _)
  · refine List.pairwise_of_forall_mem_list fun d hd d' _ a ha => ?_
    rw [(hproblem d hd).1] at ha
    exact absurd ha (Option.not_mem_none _)

theorem Field.parseSource_placed {flavor : Flavor} {source : List Char}
    {diagnostics : List Diagnostic} (hne : diagnostics ≠ [])
    (h : Field.parseSource flavor source = .error diagnostics) : Placed source diagnostics := by
  obtain ⟨before, hsource, hpos⟩ : ∃ before, source = before ++ (skipBlanks 0 source).2
      ∧ utf8Length before = (skipBlanks 0 source).1 :=
    ⟨source.takeWhile isBlank, List.takeWhile_append_dropWhile.symm, (Nat.zero_add _).symm⟩
  have hblocks := readBlocks_advance .default (source.length + 1) true hsource
  rw [hpos] at hblocks
  unfold parseSource at h
  dsimp only at h
  split at h
  · rename_i hrest
    rw [hrest] at hblocks
    exact Except.error.inj h ▸ hblocks.placed
  · rename_i keysAt keys hrest
    rw [hrest] at hblocks
    split at h
    · split at h
      · simp at h
      · exact Except.error.inj h ▸ compileProblems_placed (Except.error.inj h ▸ hne)
    · obtain rfl := Except.error.inj h
      obtain ⟨mid, hkeys, rfl, hle, hwithin, hsoft⟩ := hblocks.place
      obtain ⟨hwithin', hsoft'⟩ := readKeys_within _ hkeys
      have hend := hkeys ▸ utf8Length_le_append mid keys
      refine (hwithin.append hle hend hwithin').placed hne fun d hd => ?_
      exact List.forall_mem_append.mpr ⟨hsoft, hsoft'⟩ d (List.mem_of_mem_dropLast hd)

/-- Whatever is refused, the problems are told in the order of the text, each at the place where
it stands. -/
theorem Field.parse_placed {flavor : Flavor} {text : String} {diagnostics : List Diagnostic}
    (h : Field.parse flavor text = .error diagnostics) :
    Placed (dropReturns text.toList) diagnostics :=
  parseSource_placed (parse_error_ne_nil h) h

/-- Wide characters count with all their bytes, and carriage returns do not count. -/
theorem parse_placed_wide :
    let text := "[[é$]]\r [[b^]]//\n%50 x[[c]]//\nsize=0\nfoo=1\npoints=2"
    let diagnostics : List Diagnostic :=
      [.at .unescapedAnchor 4, .at .unescapedAnchor 11,
        .at (.illegalCharacter "[[é$]] [[b^]]//\n%50 " "x" "[[") 21, .at (.invalidSize "0") 30,
        .at (.unknownKey "foo") 37,
        .at (.keyOrder "points" "separator, points, size, feedback, comment") 43]
    Field.parse .cloze text = .error diagnostics
      ∧ Placed (dropReturns text.toList) diagnostics := by
  intro text diagnostics
  have hparse : Field.parse .cloze text = .error diagnostics := by
    unfold Field.parse
    simp only [text]
    rw [String.toList_ofList]
    decide +kernel
  exact ⟨hparse, Field.parse_placed hparse⟩

end Gapfill
