import Mathlib.Data.List.Induction
import Gapfill.Authored.FieldText
import Gapfill.Proofs.Authored.BareAnchor
import Gapfill.Proofs.Delimiter
import Gapfill.Proofs.WholeAnswer

/-!
# Patterns between slashes

A compiled pattern is shown between slashes, with letters for its flags behind
them. Who reads this form back looks for the first slash that no backslash
escapes. The rule for slashes leaves none of them bare in a body, and neither the
groups around the bodies nor the anchors have any. The separator between two
bodies is quoted, and a quoted slash is a slash: in a text that is joined by a
separator with a slash, reading stops there. This is the only case
(`Matcher.delimited_cut_iff`). The form as a whole is never ambiguous, since the
last slash is always the one behind the pattern (`Matcher.Made.eq_of_delimited`).
-/

namespace Gapfill

open SpacingRule (escapeSlashes escapeSlashes_append endsEscaping)

/-! ## Bare slashes -/

/-- The first slash of the text that no backslash escapes stands between `before` and `after`: it
has an even number of backslashes right before it, and every slash in `before` an odd number. -/
structure CutAtSlash (text before after : List Char) : Prop where
  text_eq : text = before ++ '/' :: after
  bare : trailingBackslashes before % 2 = 0
  escaped : ∀ u v, before = u ++ '/' :: v → trailingBackslashes u % 2 = 1

/-- A text is cut in one way only. -/
theorem CutAtSlash.unique {text before after before' after' : List Char}
    (h : CutAtSlash text before after) (h' : CutAtSlash text before' after') :
    before = before' ∧ after = after' := by
  -- the shorter part would end at a bare slash in the longer one
  have hnot : ∀ {u v w : List Char}, trailingBackslashes u % 2 = 0 →
      (∀ x y, v = x ++ '/' :: y → trailingBackslashes x % 2 = 1) → v ≠ u ++ '/' :: w := by
    intro u v w hbare hescaped hv
    have := hescaped u w hv
    omega
  have htext := h.text_eq.symm.trans h'.text_eq
  rcases List.append_eq_append_iff.mp htext with ⟨w, hv, hrest⟩ | ⟨w, hv, hrest⟩
  · cases w with
    | nil => simpa [eq_comm] using And.intro hv hrest
    | cons c w =>
        obtain ⟨rfl, -⟩ := List.cons.inj hrest
        exact absurd hv (hnot h.bare h'.escaped)
  · cases w with
    | nil => simpa [eq_comm] using And.intro hv hrest
    | cons c w =>
        obtain ⟨rfl, -⟩ := List.cons.inj hrest
        exact absurd hv (hnot h'.bare h.escaped)

/-- The bit that the rule for slashes keeps is that of the search for anchors. -/
theorem endsEscaping_eq_escapedAfter (b : Bool) (u : List Char) :
    endsEscaping b u = escapedAfter b u := by
  fun_induction endsEscaping b u with
  | case1 b => rfl
  | case2 c rest ih => exact ih
  | case3 c rest ih => exact ih

theorem endsEscaping_iff (u : List Char) :
    endsEscaping false u = true ↔ trailingBackslashes u % 2 = 1 := by
  rw [endsEscaping_eq_escapedAfter, escapedAfter_iff]

/-- The rule for slashes has nothing to do in a text exactly if it has nothing to do in the two
parts. -/
theorem escapeSlashes_append_eq_self_iff (b : Bool) (u v : List Char) :
    escapeSlashes b (u ++ v) = u ++ v ↔
      escapeSlashes b u = u ∧ escapeSlashes (endsEscaping b u) v = v := by
  fun_induction escapeSlashes b u with
  | case1 b => simp [endsEscaping]
  | case2 c rest ih => simpa [escapeSlashes, endsEscaping] using ih
  | case3 rest ih => simp [escapeSlashes]
  | case4 c rest hc ih => simpa [escapeSlashes, endsEscaping, hc] using ih

/-- The rule for slashes has nothing to do exactly if every slash is escaped. -/
theorem escapeSlashes_eq_self_iff {s : List Char} :
    escapeSlashes false s = s ↔ ∀ u v, s = u ++ '/' :: v → trailingBackslashes u % 2 = 1 := by
  simp only [← endsEscaping_iff]
  constructor
  · rintro h u v rfl
    have hslash := ((escapeSlashes_append_eq_self_iff false u ('/' :: v)).mp h).2
    cases hbit : endsEscaping false u with
    | true => rfl
    | false => simp [hbit, escapeSlashes] at hslash
  · intro h
    induction s using List.reverseRecOn with
    | nil => rfl
    | append_singleton s c ih =>
        refine (escapeSlashes_append_eq_self_iff false s [c]).mpr ⟨ih fun u v hs => ?_, ?_⟩
        · exact h u (v ++ [c]) (by rw [hs]; simp)
        · cases hbit : endsEscaping false s with
          | true => rfl
          | false =>
              have hc : c ≠ '/' := by
                rintro rfl
                simp [h s [] rfl] at hbit
              simp [escapeSlashes, hc]

/-! ## Slashes in the text of a pattern -/

theorem quoted_cons (c : Char) (text : List Char) :
    quoted (c :: text) = (if Pattern.isMeta c then ['\\', c] else [c]) ++ quoted text := rfl

/-- Behind a quoted text nothing is escaped. -/
theorem endsEscaping_quoted (text : List Char) : endsEscaping false (quoted text) = false := by
  induction text with
  | nil => rfl
  | cons c text ih =>
      rw [quoted_cons]
      split
      · exact ih
      · rename_i hmeta
        have hc : c ≠ '\\' := by
          rintro rfl
          exact hmeta (by decide)
        rwa [List.singleton_append, endsEscaping, beq_false_of_ne hc]

/-- Quoting escapes the signs that mean something in a pattern, and a slash is none of them. -/
theorem escapeSlashes_quoted_eq_self_iff (text : List Char) :
    escapeSlashes false (quoted text) = quoted text ↔ '/' ∉ text := by
  induction text with
  | nil => simp [quoted, escapeSlashes]
  | cons c text ih =>
      rw [quoted_cons]
      split
      · rename_i hmeta
        have hc : '/' ≠ c := by
          rintro rfl
          exact absurd hmeta (by decide)
        simpa [escapeSlashes, hc] using ih
      · rename_i hmeta
        by_cases hc : c = '/'
        · simp [hc, escapeSlashes]
        · have hback : c ≠ '\\' := by
            rintro rfl
            exact hmeta (by decide)
          have hstep : escapeSlashes false ([c] ++ quoted text) =
              c :: escapeSlashes false (quoted text) :=
            SpacingRule.escapeSlashes_cons hc hback _
          rw [hstep]
          simpa [Ne.symm hc] using ih

/-- From the end of a body on, the only slashes that may be bare are those of a separator. -/
theorem escapeSlashes_closing_eq_self_iff (separator : String) :
    ∀ {rest : List (List Char)}, (∀ body ∈ rest, escapeSlashes false body = body) → ∀ b : Bool,
      (escapeSlashes b (closing separator rest) = closing separator rest ↔
        (rest ≠ [] → '/' ∉ separator.toList))
  | [], _, b => by cases b <;> simp [closing, escapeSlashes]
  | body :: rest, h, b => by
      obtain ⟨hbody, hrest⟩ := List.forall_mem_cons.mp h
      have ih := escapeSlashes_closing_eq_self_iff separator hrest
      have hopen : escapeSlashes b (closing separator (body :: rest)) =
            closing separator (body :: rest) ↔
          escapeSlashes false (quoted separator.toList ++ ("(?:".toList ++ body)) =
              quoted separator.toList ++ ("(?:".toList ++ body)
            ∧ escapeSlashes (endsEscaping false (quoted separator.toList ++
              ("(?:".toList ++ body))) (closing separator rest) = closing separator rest := by
        rw [← escapeSlashes_append_eq_self_iff]
        cases b <;> simp [closing, escapeSlashes]
      have hgroup : escapeSlashes false ("(?:".toList ++ body) = "(?:".toList ++ body :=
        (escapeSlashes_append_eq_self_iff false _ body).mpr ⟨by decide, hbody⟩
      rw [hopen, ih, escapeSlashes_append_eq_self_iff, endsEscaping_quoted,
        escapeSlashes_quoted_eq_self_iff]
      simp only [hgroup, and_true, ne_eq, reduceCtorEq, not_false_eq_true, true_imp_iff]
      exact and_iff_left_of_imp fun hsep _ => hsep

/-- In the text for bodies without bare slashes there is a bare slash exactly if there is one
in the separator, and a separator in the text. -/
theorem escapeSlashes_anchored_eq_self_iff {bodies : List (List Char)} (separator : String)
    (h : ∀ body ∈ bodies, escapeSlashes false body = body) :
    escapeSlashes false (anchored bodies separator) = anchored bodies separator ↔
      (1 < bodies.length → '/' ∉ separator.toList) := by
  cases bodies with
  | nil => simp [anchored, escapeSlashes]
  | cons body rest =>
      obtain ⟨hbody, hrest⟩ := List.forall_mem_cons.mp h
      have hgroup : escapeSlashes false ("^(?:".toList ++ body) = "^(?:".toList ++ body :=
        (escapeSlashes_append_eq_self_iff false _ body).mpr ⟨by decide, hbody⟩
      have htext : anchored (body :: rest) separator =
          ("^(?:".toList ++ body) ++ closing separator rest := by
        rw [anchored_cons]
        rfl
      rw [htext, escapeSlashes_append_eq_self_iff,
        escapeSlashes_closing_eq_self_iff separator hrest]
      simp only [hgroup, true_and, List.length_cons, Nat.lt_add_left_iff_pos, List.length_pos_iff]

theorem applyAll_escaped (o : Options) (body : List Char) :
    escapeSlashes false (SpacingRule.applyAll o body) = SpacingRule.applyAll o body := by
  have htwice := escapeSlashes_escaped false
    ((Token.scan .plain body).flatMap (SpacingRule.written (SpacingRule.enabled o))) []
  rw [SpacingRule.applyAll_eq]
  simpa using htwice

/-! ## Compiled patterns -/

/-- The letters for the flags that the options set. -/
def Options.flagLetters (o : Options) : List Char :=
  (if o.ignoreCase then ['i'] else []) ++ (if o.dotNewline then ['s'] else [])

/-- All the expressions that a sub-pattern is compiled to. -/
def Compiled.matchers : Compiled → List Matcher
  | .ordered matcher _ => [matcher]
  | .anyOrder matchers _ _ => matchers
  | .unusable _ => []

/-- The lists of bodies that are each compiled to one expression: all bodies together, or each by
itself if the order of lines does not matter. -/
def SubPattern.compiledBodies (sub : SubPattern) : List (List (List Char)) :=
  let bodies := sub.regexes.map fun body => SpacingRule.applyAll sub.options body.toList
  if sub.options.anyOrder then bodies.map fun body => [body] else [bodies]

/-- What is compiled from the anchored text of some bodies. -/
structure Matcher.Made (m : Matcher) (o : Options) (bodies : List (List Char))
    (separator : String) : Prop where
  pattern_eq : m.pattern.toList = anchored bodies separator
  ignoreCase_eq : m.ignoreCase = o.ignoreCase
  dotNewline_eq : m.dotNewline = o.dotNewline
  regex_eq : Pattern.parse o.ignoreCase o.dotNewline (anchored bodies separator) = some m.regex

namespace Matcher

variable {m : Matcher} {o : Options} {limits : Limits} {bodies : List (List Char)}
  {separator : String}

theorem made_of_compile (h : compile (anchored bodies separator) o limits = .ok m) :
    m.Made o bodies separator := by
  unfold compile at h
  dsimp only at h
  split at h
  · rename_i regex hregex
    obtain rfl := Except.ok.inj h
    obtain ⟨whole, hdenotes, hdepth, -, rfl⟩ := Pattern.compile_eq_ok.mp hregex
    exact ⟨String.toList_ofList, rfl, rfl, Pattern.parse_iff.mpr ⟨whole, hdenotes, hdepth, rfl⟩⟩
  · cases h

end Matcher

namespace Compiled

theorem exists_of_mem_compileEach {o : Options} {limits : Limits} {m : Matcher} :
    ∀ {patterns : List (List Char)} {ms : List Matcher}, compileEach o limits patterns = .ok ms →
      m ∈ ms → ∃ pattern ∈ patterns, Matcher.compile pattern o limits = .ok m
  | [], ms, h, hm => by
      obtain rfl := Except.ok.inj h
      cases hm
  | pattern :: patterns, ms, h, hm => by
      rw [compileEach] at h
      split at h
      · cases h
      · rename_i first hfirst
        split at h
        · cases h
        · rename_i rest hrest
          obtain rfl := Except.ok.inj h
          rcases List.mem_cons.mp hm with rfl | hm
          · exact ⟨pattern, List.mem_cons_self, hfirst⟩
          · obtain ⟨other, hother, hcompile⟩ := exists_of_mem_compileEach hrest hm
            exact ⟨other, List.mem_cons_of_mem _ hother, hcompile⟩

variable {sub : SubPattern} {separator : String} {limits : Limits} {compiled : Compiled}
  {m : Matcher}

theorem exists_compiledBodies (h : ofSubPattern sub separator limits = .ok compiled)
    (hm : m ∈ compiled.matchers) :
    ∃ bodies ∈ sub.compiledBodies, m.Made sub.options bodies separator := by
  unfold ofSubPattern at h
  unfold SubPattern.compiledBodies
  dsimp only at h ⊢
  split at h
  · rename_i hany
    rw [if_pos hany]
    unfold Except.map at h
    split at h
    · cases h
    · rename_i ms hms
      obtain rfl := Except.ok.inj h
      obtain ⟨pattern, hpattern, hcompile⟩ := exists_of_mem_compileEach hms hm
      obtain ⟨body, hbody, rfl⟩ := List.mem_map.mp hpattern
      exact ⟨[body], List.mem_map_of_mem hbody, Matcher.made_of_compile hcompile⟩
  · rename_i hany
    rw [if_neg hany]
    unfold Except.map at h
    split at h
    · cases h
    · rename_i matcher hmatcher
      obtain rfl := Except.ok.inj h
      obtain rfl := List.mem_singleton.mp hm
      exact ⟨_, List.mem_singleton_self _, Matcher.made_of_compile hmatcher⟩

/-- Without a separator that is written between bodies there is no bare slash in the text, and with
one there is exactly if the separator has a slash. -/
theorem escaped_of_mem_compiledBodies {bodies : List (List Char)}
    (h : bodies ∈ sub.compiledBodies) :
    escapeSlashes false (anchored bodies separator) = anchored bodies separator ↔
      (sub.options.anyOrder = false → 1 < sub.regexes.length → '/' ∉ separator.toList) := by
  unfold SubPattern.compiledBodies at h
  dsimp only at h
  split at h
  · rename_i hany
    obtain ⟨body, hbody, rfl⟩ := List.mem_map.mp h
    obtain ⟨regex, -, rfl⟩ := List.mem_map.mp hbody
    rw [escapeSlashes_anchored_eq_self_iff separator
      (List.forall_mem_singleton.mpr (applyAll_escaped _ _))]
    simp [hany]
  · rename_i hany
    obtain rfl := List.mem_singleton.mp h
    rw [escapeSlashes_anchored_eq_self_iff separator
      (List.forall_mem_map.mpr fun regex _ => applyAll_escaped _ _), List.length_map]
    simp [Bool.eq_false_iff.mpr hany]

end Compiled

namespace Matcher

variable {m m' : Matcher} {o o' : Options} {bodies bodies' : List (List Char)}
  {separator separator' : String}

theorem Made.delimited_eq (h : m.Made o bodies separator) :
    m.delimited.toList = '/' :: (m.pattern.toList ++ '/' :: o.flagLetters) := by
  unfold delimited Options.flagLetters
  rw [h.ignoreCase_eq, h.dotNewline_eq]
  cases o.ignoreCase <;> cases o.dotNewline <;> simp

/-- The text of a pattern ends with its anchor, so nothing escapes what comes behind it. -/
theorem Made.bare (h : m.Made o bodies separator) :
    trailingBackslashes m.pattern.toList % 2 = 0 := by
  have hend : m.pattern.toList =
      ('^' :: (quoted separator.toList).intercalate
        (bodies.map fun body => "(?:".toList ++ body ++ [')'])) ++ ['$'] := h.pattern_eq
  rw [hend, trailingBackslashes_of_ne (by decide)]

theorem Made.cut_iff (h : m.Made o bodies separator) :
    CutAtSlash (m.pattern.toList ++ '/' :: o.flagLetters) m.pattern.toList o.flagLetters ↔
      escapeSlashes false (anchored bodies separator) = anchored bodies separator := by
  rw [escapeSlashes_eq_self_iff, ← h.pattern_eq]
  exact ⟨fun hcut => hcut.escaped, fun hescaped => ⟨rfl, h.bare, hescaped⟩⟩

theorem flagLetters_inj {o o' : Options} (h : o.flagLetters = o'.flagLetters) :
    o.ignoreCase = o'.ignoreCase ∧ o.dotNewline = o'.dotNewline := by
  unfold Options.flagLetters at h
  cases hi : o.ignoreCase <;> cases hd : o.dotNewline <;> cases hi' : o'.ignoreCase <;>
    cases hd' : o'.dotNewline <;> simp [hi, hd, hi', hd'] at h ⊢

theorem slash_notMem_flagLetters (o : Options) : '/' ∉ o.flagLetters := by
  unfold Options.flagLetters
  cases o.ignoreCase <;> cases o.dotNewline <;> decide

/-- What stands behind the last slash of a text is determined. -/
theorem eq_of_append_slash {u u' v v' : List Char} (hv : '/' ∉ v) (hv' : '/' ∉ v')
    (h : u ++ '/' :: v = u' ++ '/' :: v') : u = u' ∧ v = v' := by
  rcases List.append_eq_append_iff.mp h with ⟨w, hu, hrest⟩ | ⟨w, hu, hrest⟩
  · cases w with
    | nil => simpa [eq_comm] using And.intro hu hrest
    | cons c w =>
        obtain ⟨-, rfl⟩ := List.cons.inj hrest
        simp at hv
  · cases w with
    | nil => simpa [eq_comm] using And.intro hu hrest
    | cons c w =>
        obtain ⟨-, rfl⟩ := List.cons.inj hrest
        simp at hv'

/-- Expressions that are shown alike are the same. -/
theorem Made.eq_of_delimited (h : m.Made o bodies separator) (h' : m'.Made o' bodies' separator')
    (heq : m.delimited = m'.delimited) : m = m' := by
  have hform := congrArg String.toList heq
  rw [h.delimited_eq, h'.delimited_eq, List.cons.injEq] at hform
  obtain ⟨hpattern, hletters⟩ := eq_of_append_slash (slash_notMem_flagLetters o)
    (slash_notMem_flagLetters o') hform.2
  obtain ⟨hcase, hdot⟩ := flagLetters_inj hletters
  have hregex : some m.regex = some m'.regex := by
    rw [← h.regex_eq, ← h'.regex_eq, ← h.pattern_eq, ← h'.pattern_eq, hpattern, hcase, hdot]
  obtain ⟨pattern, ignoreCase, dotNewline, regex⟩ := m
  obtain ⟨pattern', ignoreCase', dotNewline', regex'⟩ := m'
  obtain rfl := String.toList_inj.mp hpattern
  obtain rfl : ignoreCase = ignoreCase' := (h.ignoreCase_eq.trans hcase).trans h'.ignoreCase_eq.symm
  obtain rfl : dotNewline = dotNewline' := (h.dotNewline_eq.trans hdot).trans h'.dotNewline_eq.symm
  obtain rfl : regex = regex' := Option.some.inj hregex
  rfl

/-- The form between slashes begins with a slash, and behind this one the first bare slash cuts it
into the pattern and the letters for the flags that are in effect: always, but for patterns of
several bodies in order that are joined by a separator with a slash in it. In any case, expressions
that are shown alike are the same, with their patterns and flags. -/
theorem delimited_cut_iff {sub : SubPattern} {separator : String} {limits : Limits}
    {compiled : Compiled} {m : Matcher}
    (hcompiled : Compiled.ofSubPattern sub separator limits = .ok compiled)
    (hm : m ∈ compiled.matchers) :
    (∃ form, m.delimited.toList = '/' :: form
      ∧ (CutAtSlash form m.pattern.toList sub.options.flagLetters ↔
        (sub.options.anyOrder = false → 1 < sub.regexes.length → '/' ∉ separator.toList)))
    ∧ ∀ {sub' : SubPattern} {separator' : String} {limits' : Limits} {compiled' : Compiled}
        {m' : Matcher}, Compiled.ofSubPattern sub' separator' limits' = .ok compiled' →
        m' ∈ compiled'.matchers → m.delimited = m'.delimited → m = m' := by
  obtain ⟨bodies, hbodies, hmade⟩ := Compiled.exists_compiledBodies hcompiled hm
  refine ⟨⟨_, hmade.delimited_eq, ?_⟩, fun hcompiled' hm' => ?_⟩
  · rw [hmade.cut_iff, Compiled.escaped_of_mem_compiledBodies hbodies]
  · obtain ⟨bodies', -, hmade'⟩ := Compiled.exists_compiledBodies hcompiled' hm'
    exact hmade.eq_of_delimited hmade'

/-- Two bodies with slashes, bare, escaped and in a set. -/
def slashedPaths : SubPattern :=
  ⟨["/usr/[/a]", "b\\/"], 100, "I", { Options.default with ignoreCase := true }⟩

theorem slashedPaths_cut :
    ∃ compiled m, Compiled.ofSubPattern slashedPaths "." .default = .ok compiled
      ∧ m ∈ compiled.matchers
      ∧ m.delimited = "/^(?:\\/usr\\/[\\/a])\\.(?:b\\/)$/i"
      ∧ ∃ form, m.delimited.toList = '/' :: form ∧ CutAtSlash form m.pattern.toList ['i'] := by
  have hshown : ((Compiled.ofSubPattern slashedPaths "." .default).toOption.map fun compiled =>
      compiled.matchers.map delimited) =
        some ["/^(?:\\/usr\\/[\\/a])\\.(?:b\\/)$/i"] := by decide +kernel
  cases hcompiled : Compiled.ofSubPattern slashedPaths "." .default with
  | error e => simp [hcompiled, Except.toOption] at hshown
  | ok compiled =>
      rw [hcompiled] at hshown
      obtain ⟨m, hm, hdelimited⟩ := List.map_eq_singleton_iff.mp (Option.some.inj hshown)
      have hmem : m ∈ compiled.matchers := hm ▸ List.mem_singleton_self m
      obtain ⟨⟨form, hform, hcut⟩, -⟩ := delimited_cut_iff hcompiled hmem
      exact ⟨compiled, m, rfl, hmem, hdelimited, form, hform, hcut.mpr fun _ _ => by decide⟩

/-- Two bodies with a slash between them: who reads the form back gets the first body only. -/
theorem separator_cuts_form :
    (Field.parse .cloze "[[a]] [[b]]//\nseparator=/").toOption =
        some { Field.empty with
          subPatterns := [⟨["a", "b"], 100, "", .default⟩], separator := "/" }
      ∧ ((Compiled.ofSubPattern ⟨["a", "b"], 100, "", .default⟩ "/" .default).toOption.map
          fun compiled => compiled.matchers.map fun m => (m.pattern, m.delimited)) =
        some [("^(?:a)/(?:b)$", "/^(?:a)/(?:b)$/")]
      ∧ CutAtSlash "^(?:a)/(?:b)$/".toList "^(?:a)".toList "(?:b)$/".toList
      ∧ ¬ CutAtSlash "^(?:a)/(?:b)$/".toList "^(?:a)/(?:b)$".toList [] := by
  have hcut : CutAtSlash "^(?:a)/(?:b)$/".toList "^(?:a)".toList "(?:b)$/".toList := by
    refine ⟨by decide, by decide, fun u v h => ?_⟩
    have hslash : '/' ∉ "^(?:a)".toList := by decide
    rw [h] at hslash
    simp at hslash
  refine ⟨by decide +kernel, by decide +kernel, hcut, fun h => ?_⟩
  exact absurd (hcut.unique h).1 (by decide)

end Matcher

end Gapfill
