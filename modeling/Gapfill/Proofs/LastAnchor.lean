import Gapfill.Proofs.DelimitedForm
import Gapfill.Proofs.ParsedField
import Gapfill.Proofs.Spacing.OnePass

/-!
# The last anchor is the first bare one

Authors may not write a bare `$` or `^`, so those of a compiled pattern should be
the two anchors around it. A text without a bare anchor can still do harm to what
is put behind it: if it ends with a backslash that is not escaped, it escapes the
next character. A text is `Sealed` if it has no bare anchor and does no such harm.

What the rules write for a body has no bare anchor if the body has none
(`AnchorFree.onePass`), as each piece that is written there is sealed. The group
around it is sealed even if the body is not: a backslash at its end meets the
parenthesis. So is a quoted separator, and hence all that stands between the two
anchors (`Sealed.intercalate`).
-/

namespace Gapfill

open SpacingRule (onePass atToken padded blank groupName setSigns escapeSlashes mem_of_startsName)

/-! ## Texts without bare anchors -/

/-- No `$` or `^` of the text is bare. `escaped` says that a backslash escapes its first
character. -/
def AnchorFree (escaped : Bool) (s : List Char) : Prop := bareAnchorFrom escaped 0 s = none

/-- Where the text begins does not matter. -/
theorem bareAnchorFrom_eq_none {escaped : Bool} {pos : Nat} {s : List Char} :
    bareAnchorFrom escaped pos s = none ↔ AnchorFree escaped s := by
  rw [AnchorFree, bareAnchorFrom_eq_none_iff, bareAnchorFrom_eq_none_iff]

theorem anchorFree_iff_not_hasBareAnchor {s : List Char} :
    AnchorFree false s ↔ ¬ HasBareAnchor s := bareAnchor?_eq_none_iff

instance (escaped : Bool) (s : List Char) : Decidable (AnchorFree escaped s) :=
  inferInstanceAs (Decidable (_ = none))

theorem anchorFree_append {escaped : Bool} {u v : List Char} :
    AnchorFree escaped (u ++ v) ↔ AnchorFree escaped u ∧ AnchorFree (escapedAfter escaped u) v := by
  rw [AnchorFree, bareAnchorFrom_append, Option.or_eq_none_iff, bareAnchorFrom_eq_none,
    bareAnchorFrom_eq_none]

@[simp] theorem anchorFree_nil (escaped : Bool) : AnchorFree escaped [] := by
  simp [AnchorFree, bareAnchorFrom]

@[simp] theorem anchorFree_escaped_cons {c : Char} {s : List Char} :
    AnchorFree true (c :: s) ↔ AnchorFree false s := by
  rw [AnchorFree, bareAnchorFrom, bareAnchorFrom_eq_none]

@[simp] theorem anchorFree_cons {c : Char} {s : List Char} :
    AnchorFree false (c :: s) ↔ (c ≠ '$' ∧ c ≠ '^') ∧ AnchorFree (c == '\\') s := by
  rw [AnchorFree, bareAnchorFrom]
  split
  · rename_i hc
    simp only [Bool.or_eq_true, decide_eq_true_eq] at hc
    simp only [reduceCtorEq, false_iff, not_and]
    rintro ⟨hdollar, hcaret⟩
    exact absurd hc (by simp [hdollar, hcaret])
  · rename_i hc
    simp only [Bool.or_eq_true, decide_eq_true_eq, not_or] at hc
    simp only [bareAnchorFrom_eq_none, hc, ne_eq, not_false_eq_true, and_self, true_and]

/-- A text without bare anchors behind which nothing is escaped. -/
structure Sealed (s : List Char) : Prop where
  anchorFree : AnchorFree false s
  settled : escapedAfter false s = false

namespace Sealed

variable {s u v : List Char}

theorem anchorFree_append_iff (h : Sealed u) : AnchorFree false (u ++ v) ↔ AnchorFree false v := by
  rw [anchorFree_append, h.settled]
  exact and_iff_right h.anchorFree

theorem nil : Sealed [] := ⟨anchorFree_nil _, rfl⟩

theorem append (hu : Sealed u) (hv : Sealed v) : Sealed (u ++ v) := by
  refine ⟨hu.anchorFree_append_iff.mpr hv.anchorFree, ?_⟩
  have hbit : escapedAfter false (u ++ v) = escapedAfter (escapedAfter false u) v :=
    List.foldl_append
  rw [hbit, hu.settled, hv.settled]

theorem intercalate (hs : Sealed s) : ∀ {texts : List (List Char)},
    (∀ text ∈ texts, Sealed text) → Sealed (s.intercalate texts)
  | [], _ => nil
  | [text], h => by simpa [List.intercalate] using h
  | text :: next :: texts, h => by
      obtain ⟨htext, hrest⟩ := List.forall_mem_cons.mp h
      rw [List.intercalate_cons_cons]
      exact (htext.append hs).append (hs.intercalate hrest)

end Sealed

/-- Behind a character that is no backslash nothing is escaped. -/
theorem escapedAfter_concat {c : Char} (hc : c ≠ '\\') (escaped : Bool) (s : List Char) :
    escapedAfter escaped (s ++ [c]) = false := by
  rw [← endsEscaping_eq_escapedAfter, SpacingRule.endsEscaping_concat hc]

/-! ## What the rules write -/

theorem AnchorFree.escapeSlashes {escaped : Bool} {s : List Char} (h : AnchorFree escaped s) :
    AnchorFree escaped (escapeSlashes escaped s) := by
  fun_induction SpacingRule.escapeSlashes escaped s with
  | case1 => exact h
  | case2 c s ih => simpa using ih (by simpa using h)
  | case3 s ih => simpa using ih (by simpa using h)
  | case4 c s hc ih =>
      obtain ⟨hanchor, hrest⟩ := anchorFree_cons.mp h
      exact anchorFree_cons.mpr ⟨hanchor, ih hrest⟩

theorem setSigns_begins (s : List Char) : setSigns s <+: s := by
  unfold setSigns
  split <;> simp

theorem groupName_begins (s : List Char) : groupName s <+: s := by
  unfold groupName
  split
  · exact List.take_prefix _ _
  · exact List.nil_prefix

/-- Behind the signs of a set nothing is escaped. -/
theorem sealed_setSigns {s : List Char} (h : AnchorFree false (setSigns s)) :
    Sealed (setSigns s) := by
  refine ⟨h, ?_⟩
  unfold SpacingRule.setSigns
  split <;> rfl

theorem sealed_groupName {s : List Char} (h : AnchorFree false (groupName s)) :
    Sealed (groupName s) := by
  refine ⟨h, ?_⟩
  rcases SpacingRule.groupName_cases s with heq | ⟨front, heq⟩
  · rw [heq]
    rfl
  · rw [heq, escapedAfter_concat (by decide)]

/-- Escaping the slashes does not touch the angle bracket at the end of a name. -/
theorem sealed_escapeSlashes_groupName {s : List Char} (h : AnchorFree false (groupName s)) :
    Sealed (escapeSlashes false (groupName s)) := by
  refine ⟨h.escapeSlashes, ?_⟩
  rcases SpacingRule.groupName_cases s with heq | ⟨front, heq⟩
  · rw [heq]
    rfl
  · have hangle : ∀ b, escapeSlashes b ['>'] = ['>'] := by decide
    rw [heq, SpacingRule.escapeSlashes_append, hangle, escapedAfter_concat (by decide)]

/-- What comes behind a sealed beginning of a text without bare anchors has none either. -/
theorem AnchorFree.drop {s front : List Char} (h : AnchorFree false s) (hfront : front <+: s)
    (hsealed : AnchorFree false front → Sealed front) :
    Sealed front ∧ AnchorFree false (s.drop front.length) := by
  rw [← List.prefix_iff_eq_append.mp hfront] at h
  have hfree := hsealed (anchorFree_append.mp h).1
  exact ⟨hfree, hfree.anchorFree_append_iff.mp h⟩

/-- A token of a rule is sealed, be it widened or not. -/
theorem sealed_atToken {token wide : List Char} (htoken : Sealed token) (hwide : Sealed wide)
    (on : SpacingRule → Bool) (depth : Nat) (rule : SpacingRule) :
    Sealed (atToken on depth rule token wide) := by
  unfold SpacingRule.atToken
  split
  · exact hwide
  · exact htoken

theorem AnchorFree.onePass {on : SpacingRule → Bool} {depth : Nat} {body : List Char}
    (h : AnchorFree false body) : AnchorFree false (onePass on depth body) := by
  fun_induction SpacingRule.onePass on depth body with
  | case1 depth => exact h
  | case3 depth c rest hbar ih => simpa using ih (by simpa using h)
  | case10 depth rest ih => simpa using ih (by simpa using h)
  | case11 depth rest ih =>
      obtain ⟨hsigns, hrest⟩ := AnchorFree.drop (by simpa using h) (setSigns_begins rest)
        sealed_setSigns
      simpa [hsigns.anchorFree_append_iff] using ih hrest
  | case12 depth rest ih => simpa using ih (by simpa using h)
  | case13 depth rest name ih =>
      have hopen : AnchorFree false rest := by simpa using h
      by_cases hdepth : depth = 0
      · obtain ⟨hname, hrest⟩ := hopen.drop (groupName_begins rest) sealed_groupName
        have hwritten := sealed_escapeSlashes_groupName hname.anchorFree
        simp only [name, hdepth] at ih ⊢
        simpa [hwritten.anchorFree_append_iff] using ih hrest
      · simp only [name, hdepth] at ih ⊢
        simpa [SpacingRule.escapeSlashes] using ih hopen
  | case14 depth c rest hbar hescape hless hmore hone hone' hsemi hspace hslash hset hclose hname
      ih =>
      obtain ⟨hanchor, hrest⟩ := anchorFree_cons.mp h
      refine anchorFree_cons.mpr ⟨hanchor, ?_⟩
      by_cases hc : c = '\\'
      · cases rest with
        | nil => simp [SpacingRule.onePass]
        | cons d rest => exact (hescape d rest hc rfl).elim
      · rw [beq_false_of_ne hc] at hrest ⊢
        exact ih hrest
  -- the tokens of the rules
  | _ =>
      rename_i ih
      refine (sealed_atToken ⟨by decide, by decide⟩ ⟨by decide, by decide⟩ _ _
        _).anchorFree_append_iff.mpr (ih ?_)
      simpa using h

theorem AnchorFree.applyAll {body : List Char} (h : AnchorFree false body) (o : Options) :
    AnchorFree false (SpacingRule.applyAll o body) := by
  rw [SpacingRule.applyAll_eq]
  have hpass := SpacingRule.escapeSlashes_written (SpacingRule.enabled o) 0 body
  rw [SpacingRule.contextAt] at hpass
  rw [hpass]
  exact h.onePass

/-! ## Between the anchors -/

/-- Quoting escapes the anchors and every backslash. -/
theorem sealed_quoted (text : List Char) : Sealed (quoted text) := by
  refine ⟨?_, by rw [← endsEscaping_eq_escapedAfter, endsEscaping_quoted]⟩
  induction text with
  | nil => exact anchorFree_nil _
  | cons c text ih =>
      rw [quoted_cons]
      split
      · simpa using ih
      · rename_i hmeta
        have hc : (c ≠ '$' ∧ c ≠ '^') ∧ c ≠ '\\' := by
          refine ⟨⟨?_, ?_⟩, ?_⟩ <;>
            · rintro rfl
              exact hmeta (by decide)
        rw [List.singleton_append, anchorFree_cons, beq_false_of_ne hc.2]
        exact ⟨hc.1, ih⟩

/-- The parenthesis behind a body is what a backslash at the end of the body escapes. -/
theorem sealed_bodyGroup {body : List Char} (h : AnchorFree false body) :
    Sealed (bodyGroup body) := by
  refine ⟨?_, escapedAfter_concat (by decide) _ _⟩
  have hopen : Sealed "(?:".toList := ⟨by decide, by decide⟩
  rw [bodyGroup, List.append_assoc, hopen.anchorFree_append_iff, anchorFree_append]
  refine ⟨h, ?_⟩
  cases escapedAfter false body <;> decide

/-- What stands between the anchors of a pattern. -/
def anchoredInner (bodies : List (List Char)) (separator : String) : List Char :=
  (quoted separator.toList).intercalate (bodies.map bodyGroup)

theorem anchored_eq (bodies : List (List Char)) (separator : String) :
    anchored bodies separator = '^' :: (anchoredInner bodies separator ++ ['$']) := rfl

theorem Sealed.bareAnchor?_eq {s : List Char} (h : Sealed s) :
    bareAnchor? (s ++ ['$']) = some (utf8Length s) := by
  have hfirst : FirstBareAnchor (s ++ ['$']) s := by
    refine ⟨⟨'$', [], rfl, .inl rfl⟩, ?_, anchorFree_iff_not_hasBareAnchor.mp h.anchorFree⟩
    have hodd := mt (escapedAfter_iff s).mpr (Bool.eq_false_iff.mp h.settled)
    omega
  exact hfirst.bareAnchor?_eq

theorem exists_regex_of_mem_compiledBodies {sub : SubPattern} {bodies : List (List Char)}
    (h : bodies ∈ sub.compiledBodies) {body : List Char} (hbody : body ∈ bodies) :
    ∃ regex ∈ sub.regexes, body = SpacingRule.applyAll sub.options regex.toList := by
  have hmem : body ∈ sub.regexes.map fun body => SpacingRule.applyAll sub.options body.toList := by
    unfold SubPattern.compiledBodies at h
    dsimp only at h
    split at h
    · obtain ⟨other, hother, rfl⟩ := List.mem_map.mp h
      rwa [List.mem_singleton.mp hbody]
    · rwa [← List.mem_singleton.mp h]
  obtain ⟨regex, hregex, rfl⟩ := List.mem_map.mp hmem
  exact ⟨regex, hregex, rfl⟩

/-- Every pattern that is compiled for a field that was read begins with an anchor and ends with
one, and this last one is the first bare anchor behind the first: what the author escaped stays
escaped, whatever the rules write and the bodies are joined by, and nothing escapes the last
anchor. -/
theorem bareAnchor?_of_compiled {flavor : Flavor} {text : String} {field : Field}
    {sub : SubPattern} {limits : Limits} {compiled : Compiled} {m : Matcher}
    (hfield : Field.parse flavor text = .ok field) (hsub : sub ∈ field.subPatterns)
    (hcompiled : Compiled.ofSubPattern sub field.separator limits = .ok compiled)
    (hm : m ∈ compiled.matchers) :
    ∃ inner, m.pattern.toList = '^' :: (inner ++ ['$'])
      ∧ bareAnchor? (m.pattern.toList.drop 1) = some (utf8Length inner) := by
  obtain ⟨bodies, hbodies, hmade⟩ := Compiled.exists_compiledBodies hcompiled hm
  have hfree : ∀ body ∈ bodies, AnchorFree false body := by
    intro body hbody
    obtain ⟨regex, hregex, rfl⟩ := exists_regex_of_mem_compiledBodies hbodies hbody
    have hwritten := ((Field.parse_subPatterns hfield).2 sub hsub).no_anchor regex hregex
    exact (anchorFree_iff_not_hasBareAnchor.mpr hwritten).applyAll sub.options
  have hinner : Sealed (anchoredInner bodies field.separator) :=
    (sealed_quoted _).intercalate
      (List.forall_mem_map.mpr fun body hbody => sealed_bodyGroup (hfree body hbody))
  have hpattern := hmade.pattern_eq.trans (anchored_eq bodies field.separator)
  refine ⟨anchoredInner bodies field.separator, hpattern, ?_⟩
  rw [hpattern, List.drop_one, List.tail_cons]
  exact hinner.bareAnchor?_eq

/-- A body that closes the group around it, so that it may end with a backslash, and one with
signs that are anchors if they are not escaped. -/
def escapedSigns : SubPattern :=
  ⟨["[\\^;]\\$;", "b)c\\"], 100, "P", { Options.default with pipeSpace := true }⟩

/-- The text of a field with this sub-pattern and with anchors in its separator. -/
def escapedSignsText : List Char := "[[[\\^;]\\$;]] [[b)c\\]]/P/\nseparator=^$".toList

/-- Four such signs come before the last anchor, each behind a backslash. -/
theorem bareAnchor?_of_escapedSigns :
    Field.parse .cloze (String.ofList escapedSignsText) =
        .ok { Field.empty with subPatterns := [escapedSigns], separator := "^$" }
      ∧ ∃ compiled m, Compiled.ofSubPattern escapedSigns "^$" .default = .ok compiled
        ∧ m ∈ compiled.matchers
        ∧ m.pattern = "^(?:[\\^;]\\$[ \\t]*(?:;|\\n)[ \\t]*)\\^\\$(?:b)c\\)$"
        ∧ ∃ inner, m.pattern.toList = '^' :: (inner ++ ['$'])
          ∧ bareAnchor? (m.pattern.toList.drop 1) = some (utf8Length inner) := by
  have hfield : Field.parse .cloze (String.ofList escapedSignsText) =
      .ok { Field.empty with subPatterns := [escapedSigns], separator := "^$" } :=
    Field.parse_ofList (by decide +kernel)
  have hshown : ((Compiled.ofSubPattern escapedSigns "^$" .default).toOption.map fun compiled =>
      compiled.matchers.map Matcher.pattern) =
        some ["^(?:[\\^;]\\$[ \\t]*(?:;|\\n)[ \\t]*)\\^\\$(?:b)c\\)$"] := by decide +kernel
  cases hcompiled : Compiled.ofSubPattern escapedSigns "^$" .default with
  | error e => simp [hcompiled, Except.toOption] at hshown
  | ok compiled =>
      rw [hcompiled] at hshown
      obtain ⟨m, hm, hpattern⟩ := List.map_eq_singleton_iff.mp (Option.some.inj hshown)
      have hmem : m ∈ compiled.matchers := hm ▸ List.mem_singleton_self m
      exact ⟨hfield, compiled, m, rfl, hmem, hpattern,
        bareAnchor?_of_compiled hfield (List.mem_singleton_self _) hcompiled hmem⟩

end Gapfill
