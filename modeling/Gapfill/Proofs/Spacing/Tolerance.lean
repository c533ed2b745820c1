import Gapfill.Authored.FieldText
import Gapfill.Proofs.Spacing.Padding
import Gapfill.Proofs.Spacing.Tokens
import Gapfill.Proofs.WholeAnswer

/-!
# When tolerance for blanks only widens

A switch for blanks has several items written in the place of one token, and
does not group them. So a sign of repetition behind the token takes the last of
these items alone, and ` ?` becomes the lazy repetition `[ \t]+?`: an answer
that is right without the switch can be wrong with it. The same goes for a token
that the reader does not take for an item, such as the space in `a{ 2 }`.

Where neither is the case (`SubPattern.TokensApart`), the switch keeps its
promise (`tolerance_widens`). The two patterns are read side by side: between
the tokens they are read alike, and behind each token the reader of the wider
pattern is the wider one.
-/

namespace Gapfill

namespace SpacingRule

open Pattern (Reader Flags Piece Spells WidensAll)

/-! ## One token -/

/-- The signs that, behind a token of the rule, take only a part of what is written for it. -/
def partSigns : SpacingRule → List Char
  | wideSpace => ['?']
  | _ => Pattern.repeatSigns

theorem question_mem_partSigns (rule : SpacingRule) : '?' ∈ rule.partSigns := by
  cases rule <;> decide

theorem space_widens {f : Flags} (h : f.skipBlanks = false) :
    (Pattern.literal f ' ').Widens (.rep (Pattern.blank f).regex 1 none) := by
  rintro b w n ⟨c, rfl, hc⟩
  refine ⟨1, Nat.le_refl 1, by simp, [c], [], rfl, ⟨c, rfl, ?_⟩, rfl⟩
  unfold Pattern.blankSet
  rw [if_neg (by simp [h])]
  exact Pattern.CharSet.mem_close_union hc

/-- How a token of a rule is read, and what is written for it: the second matches all that the
first does. A space is one item in both. -/
theorem exists_spelling {rule : SpacingRule} {t : Token} (f : Flags) (ht : t.rule? = some rule)
    (hpair : ∀ c, t = .pair c → c = '<' ∨ c = '>')
    (hblanks : rule = .wideSpace → f.skipBlanks = false) :
    ∃ ps ps' : List Piece, Spells f t.text ps ∧ Spells f (rule.replace t) ps'
      ∧ WidensAll (ps.map (·.regex)) (ps'.map (·.regex))
      ∧ (rule = .wideSpace → ∃ p p', ps = [p] ∧ ps' = [p'] ∧ p.regex.Widens p'.regex) := by
  unfold Token.rule? at ht
  split at ht
  case h_1 =>
      obtain rfl := Option.some.inj ht
      exact ⟨_, _, Pattern.spells_literal f (by simp), Pattern.spells_wide f,
        .single (space_widens (hblanks rfl)), fun _ => ⟨_, _, rfl, rfl, space_widens (hblanks rfl)⟩⟩
  case h_2 =>
      obtain rfl := Option.some.inj ht
      have hwidens : (Pattern.literal f ';').Widens (Pattern.semicolon f).regex := by
        intro b w n hw
        exact Or.inl hw
      exact ⟨_, _, Pattern.spells_literal f (by simp),
        Pattern.spells_padded (Pattern.spells_semicolon f) (by decide) (by decide),
        Pattern.widensAll_padded f (.single hwidens), by simp⟩
  case h_3 =>
      obtain rfl := Option.some.inj ht
      exact ⟨_, _, Pattern.spells_bar f,
        Pattern.spells_padded (Pattern.spells_bar f) (by decide) (by decide),
        Pattern.widensAll_padded f (.refl _), by simp⟩
  case h_4 =>
      obtain rfl := Option.some.inj ht
      exact ⟨_, _, Pattern.spells_literal f (by simp),
        Pattern.spells_padded (Pattern.spells_literal f (by simp)) (by decide) (by decide),
        Pattern.widensAll_padded f (.refl _), by simp⟩
  case h_5 =>
      obtain rfl := Option.some.inj ht
      exact ⟨_, _, Pattern.spells_literal f (by simp),
        Pattern.spells_padded (Pattern.spells_literal f (by simp)) (by decide) (by decide),
        Pattern.widensAll_padded f (.refl _), by simp⟩
  case h_6 c =>
      obtain rfl := Option.some.inj ht
      have hc := hpair c rfl
      have hcounts : Pattern.Counts c ∧ c ≠ '?' := by rcases hc with rfl | rfl <;> decide
      exact ⟨_, _, Pattern.spells_pair f hc,
        Pattern.spells_padded (Pattern.spells_pair f hc) hcounts.1 hcounts.2,
        Pattern.widensAll_padded f (.refl _), by simp⟩
  case h_7 => simp at ht

/-- Behind a token of a rule, and behind what is written for it, the comparison of the readers is
kept; behind a space, also that of the last items. -/
theorem reads_token {rule : SpacingRule} {t : Token} {r r' : Reader} {z z' u u' : List Char}
    (hwider : r.Wider r') (ht : t.rule? = some rule)
    (hpair : ∀ c, t = .pair c → c = '<' ∨ c = '>') (hz : r.flags.skip z = t.text ++ u)
    (hz' : r.flags.skip z' = rule.replace t ++ u') (hu : ∀ v, u ≠ '?' :: v)
    (hu' : ∀ v, u' ≠ '?' :: v) :
    ∃ r₁ r₁', Reader.Reads r z r₁ u ∧ Reader.Reads r' z' r₁' u' ∧ r₁.Wider r₁'
      ∧ r₁.flags = r.flags ∧ (rule = .wideSpace → r₁.frame.LastWider r₁'.frame) := by
  have hblanks : rule = .wideSpace → r.flags.skipBlanks = false := by
    rintro rfl
    cases hskip : r.flags.skipBlanks with
    | false => rfl
    | true =>
        have hspace : t.text = [' '] := by
          unfold Token.rule? at ht
          split at ht <;> simp [Token.text] at ht ⊢
        rw [hspace] at hz
        exact absurd (Flags.counts_of_skip hz hskip) (by decide)
  obtain ⟨ps, ps', hps, hps', hwidens, hone⟩ := exists_spelling r.flags ht hpair hblanks
  refine ⟨r.addAll ps, r'.addAll ps', hps r z u rfl hu hz, hps' r' z' u' hwider.flags hu' hz',
    hwider.addAll hwidens, rfl, fun hrule => ?_⟩
  obtain ⟨p, p', rfl, rfl, hp⟩ := hone hrule
  exact hwider.lastAddAll hp

/-! ## Texts with the tokens of a rule written -/

theorem replace_eq_cons {rule : SpacingRule} {t : Token} (ht : t.rule? = some rule) :
    ∃ v, rule.replace t = '[' :: v := by
  unfold Token.rule? at ht
  split at ht
  case h_7 => simp at ht
  all_goals
    obtain rfl := Option.some.inj ht
    exact ⟨_, rfl⟩

/-- The second text is the first with tokens of the rule written, where `P` holds of each of them
and the text behind it. -/
inductive Spread (rule : SpacingRule) (P : Token → List Char → Prop) :
    List Char → List Char → Prop where
  | refl (s : List Char) : Spread rule P s s
  | token {t : Token} {u u' : List Char} (before : List Char) (ht : t.rule? = some rule)
      (hpair : ∀ c, t = .pair c → c = '<' ∨ c = '>') (hp : P t u) (h : Spread rule P u u') :
      Spread rule P (before ++ (t.text ++ u)) (before ++ (rule.replace t ++ u'))

theorem text_ne_brace {rule : SpacingRule} {t : Token} (ht : t.rule? = some rule)
    (hpair : ∀ c, t = .pair c → c = '<' ∨ c = '>') (u v : List Char) :
    t.text ++ u ≠ '\x7b' :: v := by
  unfold Token.rule? at ht
  split at ht
  case h_6 c => rcases hpair c rfl with rfl | rfl <;> simp [Token.text]
  case h_7 => simp at ht
  all_goals simp [Token.text]

namespace Spread

variable {rule : SpacingRule} {P : Token → List Char → Prop} {s s' u u' : List Char}

theorem append (h : Spread rule P s s') (front : List Char) :
    Spread rule P (front ++ s) (front ++ s') := by
  cases h with
  | refl => exact .refl _
  | token before ht hpair hp h =>
      rw [← List.append_assoc, ← List.append_assoc front]
      exact .token (front ++ before) ht hpair hp h

/-- The second text begins as the first does, or with what is written for a token. -/
theorem cons_eq {c : Char} (h : Spread rule P s (c :: u')) : c = '[' ∨ ∃ u, s = c :: u := by
  generalize hs' : c :: u' = s' at h
  cases h with
  | refl => exact Or.inr ⟨u', hs'.symm⟩
  | token before ht hpair hp h =>
      cases before with
      | nil =>
          obtain ⟨v, hv⟩ := replace_eq_cons ht
          rw [List.nil_append, hv] at hs'
          exact Or.inl (List.cons.inj hs').1
      | cons d before => exact Or.inr ⟨_, by rw [(List.cons.inj hs').1]; rfl⟩

end Spread

/-! ## Reading the two texts -/

/-- The reader of the pattern `whole` takes the token for items of their own, and no sign of
repetition behind it would take a part of what the rule writes for it. -/
def ReadApart (rule : SpacingRule) (ignoreCase dotNewline : Bool) (whole : List Char) (t : Token)
    (behind : List Char) : Prop :=
  ∃ r s, Reader.Reads (.start ignoreCase dotNewline) whole r s
    ∧ r.flags.skip s = t.text ++ behind
    ∧ ∀ c u, r.flags.skip behind = c :: u → c ∉ rule.partSigns

theorem not_question_of_skip {rule : SpacingRule} {f : Flags} {u : List Char}
    (h : ∀ c v, f.skip u = c :: v → c ∉ rule.partSigns) : ∀ v, u ≠ '?' :: v := by
  rintro v rfl
  exact h '?' v (Flags.skip_of_counts (by decide) v) (question_mem_partSigns rule)

variable {rule : SpacingRule} {ignoreCase dotNewline : Bool} {whole : List Char}

/-- What is read in front of a token is read in front of what is written for it. -/
theorem reads_before {t : Token} (ht : t.rule? = some rule)
    (hpair : ∀ c, t = .pair c → c = '<' ∨ c = '>') {r r₁ : Reader} {before u z : List Char}
    (u' : List Char) (h : Reader.Reads r (before ++ (t.text ++ u)) r₁ z)
    (hskip : r₁.flags.skip z = t.text ++ u) :
    ∃ z', Reader.Reads r (before ++ (rule.replace t ++ u')) r₁ z'
      ∧ r₁.flags.skip z' = rule.replace t ++ u' := by
  have hbehind : ∀ f, Pattern.Behind f (t.text ++ u) (rule.replace t ++ u') := by
    refine fun _ => ⟨fun _ => by cases t <;> simp [Token.text], fun c w hc => ?_⟩
    obtain ⟨v, hv⟩ := replace_eq_cons ht
    rw [hv] at hc
    exact Or.inr (List.cons.inj hc).1.symm
  exact h.swap_end hbehind (Pattern.Swap.append .tail before) hskip (text_ne_brace ht hpair u)

/-- Read side by side, from readers of which the second is wider: the run over the first text has
a run over the second beside it, which ends with a wider reader. -/
theorem Spread.reads {s s' : List Char}
    (h : Spread rule (ReadApart rule ignoreCase dotNewline whole) s s') :
    ∀ {r r' last : Reader} {z : List Char}, Reader.Reads (.start ignoreCase dotNewline) whole r s →
      r.Wider r' →
      (r.frame.LastWider r'.frame ∨ ∀ c u, r.flags.skip s = c :: u → c ∉ Pattern.repeatSigns) →
      Reader.Reads r s last z → last.flags.skip z = [] →
      ∃ last' z', Reader.Reads r' s' last' z' ∧ last.Wider last' ∧ last.flags.skip z' = [] := by
  induction h with
  | refl s =>
      intro r r' last z _ hwider hlast hrun hend
      obtain ⟨last', hrun', hwider', -⟩ := hrun.wider hwider hlast
      exact ⟨last', z, hrun', hwider', hend⟩
  | token before ht hpair hp hrest ih =>
      rename_i t u u'
      intro r r' last z hstart hwider hlast hrun hend
      obtain ⟨r₁, z₁, hstart₁, hskip, hsigns⟩ := hp
      -- the token lies ahead, and the same items in front of what is written for it
      have hahead : Reader.Reads r (before ++ (t.text ++ u)) r₁ z₁ :=
        hstart.ahead hstart₁ (by rw [hskip]; exact (List.suffix_append before _).length_le)
      obtain ⟨r₁', hahead', hwider₁, -⟩ := hahead.wider hwider hlast
      obtain ⟨z₁', hbefore, hskip'⟩ :=
        reads_before ht hpair u' hahead' (by rw [hwider₁.flags, hskip])
      rw [hwider₁.flags] at hskip'
      -- the token
      have hu := not_question_of_skip hsigns
      have hu' : ∀ w, u' ≠ '?' :: w := by
        rintro w rfl
        rcases hrest.cons_eq with hc | ⟨w', hw'⟩
        · exact absurd hc (by decide)
        · exact hu w' hw'
      obtain ⟨r₂, r₂', htoken, htoken', hwider₂, hflags, hspace⟩ :=
        reads_token hwider₁ ht hpair hskip hskip' hu hu'
      have hlast₂ : r₂.frame.LastWider r₂'.frame
          ∨ ∀ c w, r₂.flags.skip u = c :: w → c ∉ Pattern.repeatSigns := by
        cases rule with
        | wideSpace => exact Or.inl (hspace rfl)
        | pipeSpace | redirectSpace | escapeSlash => exact Or.inr (hflags ▸ hsigns)
      have hrun₂ : Reader.Reads r₂ u last z := (hahead.trans htoken).to_end hrun hend
      obtain ⟨last', z', hrun', hdone⟩ :=
        ih (hstart.trans (hahead.trans htoken)) hwider₂ hlast₂ hrun₂ hend
      exact ⟨last', z', hbefore.trans (htoken'.trans hrun'), hdone⟩

/-! ## The text of a pattern -/

/-- The tokens of a body, with those of the rule written and with all others as before. -/
theorem spread_tokens {P : Token → List Char → Prop} {on on' : SpacingRule → Bool}
    {body rest rest' : List Char} (hoff : on rule = false) (hon : on' rule = true)
    (hothers : ∀ r, r ≠ rule → on' r = on r) (hrest : Spread rule P rest rest') :
    ∀ {tokens : List Token} {b : Bool}, tokens <:+ Token.scan .plain body →
      (∀ t back, t :: back <:+ tokens → t.rule? = some rule →
        P t (escapeSlashes false (back.flatMap (written on)) ++ rest)) →
      Spread rule P (escapeSlashes b (tokens.flatMap (written on)) ++ rest)
        (escapeSlashes b (tokens.flatMap (written on')) ++ rest')
  | [], b, _, _ => by simpa [escapeSlashes] using hrest
  | t :: back, b, hsuffix, hp => by
      have hback : back <:+ t :: back := List.suffix_cons t back
      have ih := fun b => spread_tokens (b := b) hoff hon hothers hrest (hback.trans hsuffix)
        fun t' back' h => hp t' back' (h.trans hback)
      have hmem : t ∈ Token.scan .plain body := hsuffix.subset List.mem_cons_self
      rw [List.flatMap_cons, List.flatMap_cons]
      by_cases ht : t.rule? = some rule
      · rw [written_of_rule? ht, written_of_rule? ht, hoff, hon]
        obtain ⟨hplain, -⟩ := escapeSlashes_token hmem ht b (back.flatMap (written on))
        obtain ⟨-, hwritten⟩ := escapeSlashes_token hmem ht b (back.flatMap (written on'))
        rw [if_neg (by decide), if_pos rfl, hplain, hwritten, List.append_assoc, List.append_assoc]
        refine .token [] ht ?_ (hp t back (List.suffix_refl _) ht) (ih false)
        rintro c rfl
        exact scan_pair hmem
      · have hsame : written on' t = written on t := written_congr fun r hr => by
          refine hothers r ?_
          rintro rfl
          exact ht hr
        rw [hsame, escapeSlashes_append, escapeSlashes_append, List.append_assoc, List.append_assoc]
        exact (ih _).append _

end SpacingRule

/-- The options with the switch of a rule turned on. -/
def Options.turnOn (o : Options) : SpacingRule → Options
  | .wideSpace => { o with wideSpace := true }
  | .pipeSpace => { o with pipeSpace := true }
  | .redirectSpace => { o with redirectSpace := true }
  | .escapeSlash => o

theorem Options.enabled_turnOn {o : Options} {rule : SpacingRule}
    (h : rule.enabled o = false) : rule.enabled (o.turnOn rule) = true
      ∧ ∀ r, r ≠ rule → SpacingRule.enabled (o.turnOn rule) r = SpacingRule.enabled o r := by
  cases rule with
  | escapeSlash => simp [SpacingRule.enabled] at h
  | wideSpace | pipeSpace | redirectSpace =>
      refine ⟨rfl, fun r hr => ?_⟩
      cases r <;> first | rfl | exact absurd rfl hr

namespace SubPattern

/-- The sub-pattern with the switch of a rule turned on, and everything else as it is. -/
def turnOn (sub : SubPattern) (rule : SpacingRule) : SubPattern :=
  { sub with options := sub.options.turnOn rule }

/-- The pattern of the sub-pattern behind a body of which the tokens `back` are left, with the
bodies `after` still to come. -/
def textBehind (sub : SubPattern) (separator : String) (back : List Token)
    (after : List String) : List Char :=
  SpacingRule.escapeSlashes false
      (back.flatMap (SpacingRule.written fun rule => rule.enabled sub.options))
    ++ closing separator (after.map fun body => SpacingRule.applyAll sub.options body.toList)

/-- Every token of the rule is read for items of its own. -/
def TokensApart (sub : SubPattern) (separator : String) (rule : SpacingRule) : Prop :=
  ∀ body after, body :: after <:+ sub.regexes →
    ∀ t back, t :: back <:+ Token.scan .plain body.toList → t.rule? = some rule →
      rule.ReadApart sub.options.ignoreCase sub.options.dotNewline (sub.wholeText separator) t
        (sub.textBehind separator back after)

variable {sub : SubPattern} {separator : String} {rule : SpacingRule}

theorem turnOn_anyOrder : (sub.turnOn rule).options.anyOrder = sub.options.anyOrder := by
  cases rule <;> rfl

theorem turnOn_ignoreCase : (sub.turnOn rule).options.ignoreCase = sub.options.ignoreCase := by
  cases rule <;> rfl

theorem turnOn_dotNewline : (sub.turnOn rule).options.dotNewline = sub.options.dotNewline := by
  cases rule <;> rfl

theorem admit_turnOn (limits : Limits) (answer : List Char) :
    admitAnswer? (sub.turnOn rule).options limits answer =
      admitAnswer? sub.options limits answer := by
  cases rule <;> rfl

theorem spread_body {o : Options} {P : Token → List Char → Prop} {body : String}
    {rest rest' : List Char} (hoff : rule.enabled o = false)
    (hp : ∀ t back, t :: back <:+ Token.scan .plain body.toList → t.rule? = some rule →
      P t (SpacingRule.escapeSlashes false
        (back.flatMap (SpacingRule.written fun r => r.enabled o)) ++ rest))
    (hrest : SpacingRule.Spread rule P rest rest') :
    SpacingRule.Spread rule P (SpacingRule.applyAll o body.toList ++ rest)
      (SpacingRule.applyAll (o.turnOn rule) body.toList ++ rest') := by
  obtain ⟨hon, hothers⟩ := Options.enabled_turnOn hoff
  rw [SpacingRule.applyAll_eq, SpacingRule.applyAll_eq (o.turnOn rule)]
  exact SpacingRule.spread_tokens hoff hon hothers hrest (List.suffix_refl _) hp

theorem spread_closing {P : Token → List Char → Prop} (hoff : rule.enabled sub.options = false) :
    ∀ {bodies : List String},
      (∀ body after, body :: after <:+ bodies →
        ∀ t back, t :: back <:+ Token.scan .plain body.toList → t.rule? = some rule →
          P t (sub.textBehind separator back after)) →
      SpacingRule.Spread rule P
        (closing separator (bodies.map fun body => SpacingRule.applyAll sub.options body.toList))
        (closing separator
          (bodies.map fun body => SpacingRule.applyAll (sub.turnOn rule).options body.toList))
  | [], _ => .refl _
  | body :: after, hp => by
      have ih := spread_closing hoff fun body' after' h =>
        hp body' after' (h.trans (List.suffix_cons body after))
      have hbody := spread_body hoff (hp body after (List.suffix_refl _)) ih
      simp only [List.map_cons, closing, List.append_assoc]
      exact ((hbody.append _).append _).append [')']

theorem spread_wholeText {P : Token → List Char → Prop} (hoff : rule.enabled sub.options = false)
    (hp : ∀ body after, body :: after <:+ sub.regexes →
      ∀ t back, t :: back <:+ Token.scan .plain body.toList → t.rule? = some rule →
        P t (sub.textBehind separator back after)) :
    SpacingRule.Spread rule P (sub.wholeText separator)
      ((sub.turnOn rule).wholeText separator) := by
  unfold wholeText
  rw [show (sub.turnOn rule).regexes = sub.regexes from rfl]
  cases hregexes : sub.regexes with
  | nil => exact .refl _
  | cons body after =>
      rw [hregexes] at hp
      have hrest := spread_closing hoff fun body' after' h =>
        hp body' after' (h.trans (List.suffix_cons body after))
      have hbody := spread_body hoff (hp body after (List.suffix_refl _)) hrest
      rw [List.map_cons, List.map_cons, anchored_cons, anchored_cons, List.append_assoc,
        List.append_assoc]
      exact (hbody.append "(?:".toList).append ['^']

end SubPattern

/-- An answer that is right without the switch of a rule: with the switch on, the pattern can
still be read, and the answer is right as long as the pattern is neither too deep nor too big. -/
theorem tolerance_widens {sub : SubPattern} {separator : String} {limits : Limits}
    {answer : List Char} {rule : SpacingRule} (hordered : sub.options.anyOrder = false)
    (hoff : rule.enabled sub.options = false) (hapart : sub.TokensApart separator rule)
    (hone : ((Compiled.ofStored sub separator limits).evaluate limits answer).value = 1) :
    ∃ whole, Pattern.Denotes sub.options.ignoreCase sub.options.dotNewline
        ((sub.turnOn rule).wholeText separator) whole
      ∧ (((Compiled.ofStored (sub.turnOn rule) separator limits).evaluate limits answer).value = 1 ↔
        whole.depth ≤ Pattern.maxDepth ∧ whole.regex.size ≤ limits.programSize) := by
  obtain ⟨regex, normalized, hcompile, hnormalized, hsearch⟩ :=
    (Compiled.evaluate_ofStored_eq_one hordered).mp hone
  obtain ⟨whole, hdenotes, -, -, rfl⟩ := Pattern.compile_eq_ok.mp hcompile
  have hbounded := hdenotes.bounded
  obtain ⟨last, z, hrun, hend, houter, rfl⟩ := hdenotes
  obtain ⟨last', z', hrun', hwider, hend'⟩ := (SubPattern.spread_wholeText hoff hapart).reads
    (.refl _ _) (.start _ _) (Or.inl (.of_nil rfl)) hrun hend
  obtain ⟨hdenotes', hwidens⟩ := Pattern.Denotes.of_wider hrun' hwider hend' houter
  refine ⟨last'.frame.total, hdenotes', ?_⟩
  have hsearch' : last'.frame.total.regex.search normalized = true :=
    Pattern.Regex.search_widens hwidens hbounded hdenotes'.bounded hsearch
  have hordered' : (sub.turnOn rule).options.anyOrder = false := by
    rw [SubPattern.turnOn_anyOrder, hordered]
  rw [Compiled.evaluate_ofStored_eq_one hordered', SubPattern.turnOn_ignoreCase,
    SubPattern.turnOn_dotNewline, SubPattern.admit_turnOn]
  constructor
  · rintro ⟨regex, -, hcompile', -, -⟩
    obtain ⟨whole, hwhole, hdepth, hsize, -⟩ := Pattern.compile_eq_ok.mp hcompile'
    rw [hdenotes'.unique hwhole]
    exact ⟨hdepth, hsize⟩
  · rintro ⟨hdepth, hsize⟩
    exact ⟨_, normalized, Pattern.compile_eq_ok.mpr ⟨_, hdenotes', hdepth, hsize, rfl⟩, hnormalized,
      hsearch'⟩

/-- A sub-pattern with none of the switches for blanks. -/
def SubPattern.strict (body : String) : SubPattern :=
  ⟨[body], 100, "s", { Options.default with wideSpace := false }⟩

/-- What the sub-pattern is worth for an answer, within the usual bounds. -/
def SubPattern.worth (sub : SubPattern) (answer : String) : Binary64 :=
  ((Compiled.ofStored sub "\n" .default).evaluate .default answer.toList).value

theorem strict_tokensApart : (SubPattern.strict "a b*").TokensApart "\n" .wideSpace := by
  intro body after hbody t back ht hrule
  obtain ⟨rfl, rfl⟩ : body = "a b*" ∧ after = [] := by
    simpa [SubPattern.strict, List.suffix_cons_iff] using hbody
  have hscan : Token.scan .plain "a b*".toList =
      [.char 'a', .char ' ', .char 'b', .char '*'] := by decide
  rw [hscan] at ht
  simp only [List.suffix_cons_iff, List.cons.injEq, List.suffix_nil, reduceCtorEq, or_false] at ht
  obtain ⟨rfl, rfl⟩ | ⟨rfl, rfl⟩ | ⟨rfl, rfl⟩ | ⟨rfl, rfl⟩ := ht
  · simp [Token.rule?] at hrule
  · -- the items `^`, `(?:` and `a` come before the space
    refine ⟨_, " b*)$".toList, .step (u := "(?:a b*)$".toList) rfl rfl
      (.step (u := "?:a b*)$".toList) rfl rfl (.single (u := " b*)$".toList) rfl rfl)), rfl, ?_⟩
    intro c u hskip
    have hc : some 'b' = some c := congrArg List.head? hskip
    obtain rfl := Option.some.inj hc
    decide
  · simp [Token.rule?] at hrule
  · simp [Token.rule?] at hrule

theorem tolerance_widens_strict :
    (SubPattern.strict "a b*").TokensApart "\n" .wideSpace
      ∧ (SubPattern.strict "a b*").worth "a bb" = 1
      ∧ ∃ whole, Pattern.Denotes false false
          (((SubPattern.strict "a b*").turnOn .wideSpace).wholeText "\n") whole
        ∧ (((SubPattern.strict "a b*").turnOn .wideSpace).worth "a bb" = 1 ↔
          whole.depth ≤ Pattern.maxDepth ∧ whole.regex.size ≤ Limits.default.programSize) := by
  have hone : (SubPattern.strict "a b*").worth "a bb" = 1 := by decide +kernel
  exact ⟨strict_tokensApart, hone, tolerance_widens rfl rfl strict_tokensApart hone⟩

/-- With its switch on, each of these patterns turns down an answer that it takes with the switch
off: a sign of repetition takes a part of what is written for a token, or the token is no item. -/
theorem repetition_takes_part :
    (Field.parse .cloze "[[a ?b]]/s/").toOption
        = some { Field.empty with subPatterns := [.strict "a ?b"] }
      ∧ (SubPattern.strict "a ?b").worth "ab" = 1
      ∧ ((SubPattern.strict "a ?b").turnOn .wideSpace).worth "ab" = 0
      ∧ (SubPattern.strict "a;*b").worth "ab" = 1
      ∧ ((SubPattern.strict "a;*b").turnOn .pipeSpace).worth "ab" = 0
      ∧ (SubPattern.strict "a<+b").worth "a<<b" = 1
      ∧ ((SubPattern.strict "a<+b").turnOn .redirectSpace).worth "a<<b" = 0
      ∧ (SubPattern.strict "a\x7b 2 \x7d").worth "aa" = 1
      ∧ ((SubPattern.strict "a\x7b 2 \x7d").turnOn .wideSpace).worth "aa" = 0 := by
  decide +kernel

end Gapfill
