import Gapfill.Proofs.Anchoring
import Gapfill.Proofs.Pattern.Words
import Gapfill.Proofs.Spacing.Tokens

/-!
# Bodies of literal tokens

A body without metacharacters, or with backslashes before them, is a sequence of
tokens that stand for text (`Token.IsLiteral`). The switches for blanks give such
a token more words than its text (`Token.IsWord`): what an author sees of the
switches are these words, not the expressions that are written for them.

Each token is taken by itself, from what is written for it to its words
(`Token.IsLiteral.spellsWords`); the blanks that neighbours allow may overlap, as
a sequence of texts stands for all sequences of their words. So an answer is worth
one if and only if it is made of one word for each token (`literal_tokens_iff`).
-/

namespace Gapfill

open SpacingRule (escapeSlashes written)

/-! ## Literal tokens -/

namespace Token

/-- A token that stands for text: a character with no meaning in a pattern, two equal angle
brackets, or a backslash before a sign that it makes stand for itself. -/
def IsLiteral : Token → Prop
  | inert _ => False
  | escape c => Pattern.IsPunctuation c ∧ c ≠ '<' ∧ c ≠ '>'
  | pair c => c = '<' ∨ c = '>'
  | char c => Pattern.IsPlain c

instance : DecidablePred IsLiteral
  | inert _ => inferInstanceAs (Decidable False)
  | escape _ => inferInstanceAs (Decidable (_ ∧ _ ∧ _))
  | pair _ => inferInstanceAs (Decidable (_ ∨ _))
  | char c => inferInstanceAs (Decidable (Pattern.IsPlain c))

/-- Two equal angle brackets are one token, so one by itself is not followed by another. -/
def PairsFirst (tokens : List Token) : Prop :=
  tokens.IsChain fun t t' => ∀ c, c = '<' ∨ c = '>' → t = char c → t'.text.head? ≠ some c

end Token

/-- Spaces and tabs, as many as there are. -/
def IsBlanks (w : List Char) : Prop := ∀ c ∈ w, c = ' ' ∨ c = '\t'

/-- Blanks, a word, and blanks. -/
def IsPadded (IsCore : List Char → Prop) (w : List Char) : Prop :=
  ∃ u v x, w = u ++ (v ++ x) ∧ IsBlanks u ∧ IsCore v ∧ IsBlanks x

/-- The words that a literal token stands for. -/
def Token.IsWord (o : Options) (t : Token) (w : List Char) : Prop :=
  match t with
  | char ' ' => if o.wideSpace then w ≠ [] ∧ IsBlanks w else w = [' ']
  | char ';' =>
    if o.pipeSpace then IsPadded (fun v => v = [';'] ∨ v = ['\n']) w else w = [';']
  | escape '|' => if o.pipeSpace then IsPadded (· = ['|']) w else w = ['|']
  | char '<' => if o.redirectSpace then IsPadded (· = ['<']) w else w = ['<']
  | char '>' => if o.redirectSpace then IsPadded (· = ['>']) w else w = ['>']
  | pair c => if o.redirectSpace then IsPadded (· = [c, c]) w else w = [c, c]
  | char c | escape c | inert c => w = [c]

namespace Token

/-- The text of literal tokens falls into these tokens again. -/
theorem scan_flatMap_text : ∀ {tokens : List Token}, (∀ t ∈ tokens, t.IsLiteral) →
    PairsFirst tokens → scan .plain (tokens.flatMap text) = tokens
  | [], _, _ => rfl
  | t :: rest, hliteral, hpairs => by
      obtain ⟨ht, hrest⟩ := List.forall_mem_cons.mp hliteral
      have ih := scan_flatMap_text hrest hpairs.of_cons
      rw [List.flatMap_cons]
      cases t with
      | inert c => exact ht.elim
      | escape c => simp [text, scan, ih]
      | pair c => rcases ht with rfl | rfl <;> simp [text, scan, ih]
      | char c =>
          have hnext : c = '<' ∨ c = '>' → (rest.flatMap text).head? ≠ some c := by
            intro hc
            cases rest with
            | nil => simp
            | cons t' rest =>
                have hhead := (List.isChain_cons_cons.mp hpairs).1 c hc rfl
                cases t' <;> simpa [text] using hhead
          have hne : ∀ d, ¬ Pattern.IsPlain d → c ≠ d := by
            rintro d hd rfl
            exact hd ht
          change scan .plain (c :: rest.flatMap text) = _
          rw [SpacingRule.scan_char (fun hc => absurd hc (hne _ (by decide))) hnext
            (hne _ (by decide)) fun hc => absurd hc (hne _ (by decide)), ih]

end Token

namespace SpacingRule

/-- Nothing behind a literal token is escaped by it. -/
theorem escapeSlashes_written_append {ctx : Token.Context} {on : SpacingRule → Bool} {t : Token}
    {s : List Char} (hmem : t ∈ Token.scan ctx s) (ht : t.IsLiteral) (u : List Char) :
    escapeSlashes false (written on t ++ u) =
      escapeSlashes false (written on t) ++ escapeSlashes false u := by
  have hends : endsEscaping false t.text = false := by
    cases t with
    | inert c => exact ht.elim
    | escape c => simp [Token.text, endsEscaping]
    | pair c => rcases ht with rfl | rfl <;> rfl
    | char c =>
        refine beq_false_of_ne ?_
        rintro rfl
        exact absurd ht (by decide)
  cases hrule : t.rule? with
  | none =>
      rw [written_of_off (by simp [hrule]), escapeSlashes_append, hends]
  | some rule =>
      have hall := fun v => escapeSlashes_token hmem hrule false v
      have htext := (hall []).1
      have hreplace := (hall []).2
      simp only [List.append_nil] at htext hreplace
      rw [written_of_rule? hrule]
      split
      · rw [(hall u).2, hreplace]
        simp [escapeSlashes]
      · rw [(hall u).1, htext]
        simp [escapeSlashes]

end SpacingRule

namespace Pattern

/-! ## What is written for tokens -/

variable {dotNewline : Bool}

theorem mem_blankSet {c : Char} :
    (blankSet (.initial false dotNewline)).mem c = true ↔ c = ' ' ∨ c = '\t' := by
  change ((CharSet.single ' ').mem c || (CharSet.single '\t').mem c) = true ↔ _
  rw [Bool.or_eq_true, mem_single_iff, mem_single_iff]

theorem spellsWords_pair {c : Char} (h : c = '<' ∨ c = '>') :
    SpellsWords dotNewline [c, c] [.flat (literal (.initial false dotNewline) c),
      .flat (literal (.initial false dotNewline) c)] (· = [c, c]) := by
  have hone : SpellsWords dotNewline [c] _ (· = [c]) :=
    spellsWords_plain (by rcases h with rfl | rfl <;> decide)
  exact (hone.append hone).congr (by simp)

theorem spellsWords_semicolon : SpellsWords dotNewline "(?:;|\\n)".toList
    [semicolon (.initial false dotNewline)] (fun w => w = [';'] ∨ w = ['\n']) where
  spells := spells_semicolon _
  notLazy := by decide
  hasWords := hasWords_single fun _ _ _ => or_congr literal_matches literal_matches
  depth := by simp [semicolon]

theorem spellsWords_wide : SpellsWords dotNewline (SpacingRule.blank ++ ['+'])
    [⟨.rep (blank (.initial false dotNewline)).regex 1 none,
      (blank (.initial false dotNewline)).depth + 1⟩] (fun w => w ≠ [] ∧ IsBlanks w) where
  spells := spells_wide _
  notLazy := by decide
  hasWords := by
    refine hasWords_single fun b w n => rep_chars_matches.trans ?_
    simp only [mem_blankSet, IsBlanks, Nat.one_le_iff_ne_zero, ne_eq, List.length_eq_zero_iff]
  depth := by simp [blank, Flags.initial]

theorem spellsWords_padding : SpellsWords dotNewline ['[', ' ', '\\', 't', ']', '*']
    [padding (.initial false dotNewline)] IsBlanks where
  spells := spells_padding _
  notLazy := by decide
  hasWords := by
    refine hasWords_single fun b w n => rep_chars_matches.trans ?_
    simp only [Nat.zero_le, true_and, mem_blankSet, IsBlanks]
  depth := by simp [padding, blank, Flags.initial]

/-- Padding on both sides allows blanks on both sides. -/
theorem SpellsWords.padded {text : List Char} {ps : List Piece} {W : List Char → Prop}
    (h : SpellsWords dotNewline text ps W) :
    SpellsWords dotNewline (SpacingRule.padded text)
      ([padding (.initial false dotNewline)] ++ (ps ++ [padding (.initial false dotNewline)]))
      (IsPadded W) := by
  have hpadding : SpellsWords dotNewline _ _ IsBlanks := spellsWords_padding
  have htext : SpacingRule.padded text =
      ['[', ' ', '\\', 't', ']', '*'] ++ (text ++ ['[', ' ', '\\', 't', ']', '*']) := by
    simp [SpacingRule.padded, blank_eq]
  rw [htext]
  refine (hpadding.append (h.append hpadding)).congr fun w => ?_
  constructor
  · rintro ⟨u, -, rfl, hu, v, x, rfl, hv, hx⟩
    exact ⟨u, v, x, rfl, hu, hv, hx⟩
  · rintro ⟨u, v, x, rfl, hu, hv, hx⟩
    exact ⟨u, v ++ x, rfl, hu, v, x, rfl, hv, hx⟩

end Pattern

open Pattern (SpellsWords)

/-- A token of a rule is read as it stands, or as what is written for it. -/
private theorem Token.exists_spellsWords {t : Token} (rule : SpacingRule) (ht : t.rule? = some rule)
    {o : Options} {ps ps' : List Pattern.Piece} {V W : List Char → Prop}
    (htext : SpellsWords o.dotNewline t.text ps V)
    (hreplace : SpellsWords o.dotNewline (rule.replace t) ps' W)
    (hslash : escapeSlashes false t.text = t.text
      ∧ escapeSlashes false (rule.replace t) = rule.replace t)
    (hword : ∀ w, t.IsWord o w = if rule.enabled o then W w else V w) :
    ∃ ps, SpellsWords o.dotNewline (escapeSlashes false (written (SpacingRule.enabled o) t)) ps
      (t.IsWord o) := by
  rw [SpacingRule.written_of_rule? ht, funext hword]
  split
  · rw [hslash.2]
    exact ⟨ps', hreplace⟩
  · rw [hslash.1]
    exact ⟨ps, htext⟩

/-- A token of no rule is read as its character. -/
private theorem Token.exists_spellsWords_char {t : Token} {o : Options} {c : Char}
    (ht : t.rule? = none) (hword : t.IsWord o = (· = [c]))
    (htext : SpellsWords o.dotNewline (escapeSlashes false t.text)
      [.flat (Pattern.literal (.initial false o.dotNewline) c)] (· = [c])) :
    ∃ ps, SpellsWords o.dotNewline (escapeSlashes false (written (SpacingRule.enabled o) t)) ps
      (t.IsWord o) := by
  rw [SpacingRule.written_of_off (by simp [ht]), hword]
  exact ⟨_, htext⟩

/-- A literal token of a rule is read as its text, or as what the rule writes for it. -/
private theorem Token.IsLiteral.spellsWords_of_rule {t : Token} (ht : t.IsLiteral) (o : Options)
    {rule : SpacingRule} (hrule : t.rule? = some rule) :
    ∃ ps, SpellsWords o.dotNewline (escapeSlashes false (written (SpacingRule.enabled o) t)) ps
      (t.IsWord o) := by
  have hbar : SpellsWords o.dotNewline ['\\', '|'] _ (· = ['|']) :=
    Pattern.spellsWords_escape (by decide) (by decide) (by decide)
  unfold Token.rule? at hrule
  split at hrule
  case h_1 =>
      obtain rfl := Option.some.inj hrule
      exact exists_spellsWords .wideSpace rfl (Pattern.spellsWords_plain ht)
        Pattern.spellsWords_wide ⟨rfl, rfl⟩ fun w => rfl
  case h_2 =>
      obtain rfl := Option.some.inj hrule
      exact exists_spellsWords .pipeSpace rfl (Pattern.spellsWords_plain ht)
        Pattern.spellsWords_semicolon.padded ⟨rfl, rfl⟩ fun w => rfl
  case h_3 =>
      obtain rfl := Option.some.inj hrule
      exact exists_spellsWords .pipeSpace rfl hbar hbar.padded ⟨rfl, rfl⟩ fun w => rfl
  case h_4 | h_5 =>
      obtain rfl := Option.some.inj hrule
      exact exists_spellsWords .redirectSpace rfl (Pattern.spellsWords_plain ht)
        (Pattern.spellsWords_plain ht).padded ⟨rfl, rfl⟩ fun w => rfl
  case h_6 c =>
      obtain rfl := Option.some.inj hrule
      have hpair : SpellsWords o.dotNewline [c, c] _ (· = [c, c]) := Pattern.spellsWords_pair ht
      have hslash : c ≠ '/' := by rcases ht with rfl | rfl <;> decide
      refine exists_spellsWords .redirectSpace rfl hpair hpair.padded ?_ fun w => rfl
      rcases ht with rfl | rfl <;> exact ⟨rfl, rfl⟩
  case h_7 => simp at hrule

/-- A literal token of no rule is read as its character, a slash as an escaped one. -/
private theorem Token.IsLiteral.spellsWords_of_no_rule {t : Token} (ht : t.IsLiteral) (o : Options)
    (hrule : t.rule? = none) :
    ∃ ps, SpellsWords o.dotNewline (escapeSlashes false (written (SpacingRule.enabled o) t)) ps
      (t.IsWord o) := by
  cases t with
  | inert c => exact ht.elim
  | escape c =>
      obtain ⟨hsign, hless, hmore⟩ := ht
      refine exists_spellsWords_char (c := c) hrule ?_ ?_
      · unfold Token.rule? at hrule
        unfold Token.IsWord
        split <;> simp_all
      · have htext : escapeSlashes false ['\\', c] = ['\\', c] := by simp [escapeSlashes]
        rw [text, htext]
        exact Pattern.spellsWords_escape hsign hless hmore
  | pair c => simp [Token.rule?] at hrule
  | char c =>
      refine exists_spellsWords_char (c := c) hrule ?_ ?_
      · unfold Token.rule? at hrule
        unfold Token.IsWord
        split <;> simp_all
      · by_cases hslash : c = '/'
        · subst hslash
          exact Pattern.spellsWords_escape (by decide) (by decide) (by decide)
        · have htext : escapeSlashes false [c] = [c] := by simp [escapeSlashes, hslash]
          rw [text, htext]
          exact Pattern.spellsWords_plain ht

/-- What is written for a literal token is read as pieces that match its words. -/
theorem Token.IsLiteral.spellsWords {t : Token} (ht : t.IsLiteral) (o : Options) :
    ∃ ps, SpellsWords o.dotNewline (escapeSlashes false (written (SpacingRule.enabled o) t)) ps
      (t.IsWord o) := by
  cases hrule : t.rule? with
  | some rule => exact ht.spellsWords_of_rule o hrule
  | none => exact ht.spellsWords_of_no_rule o hrule

/-! ## Answers -/

/-- What the options make of literal tokens, token by token. -/
theorem applyAll_literal {tokens : List Token} (hliteral : ∀ t ∈ tokens, t.IsLiteral)
    (hpairs : Token.PairsFirst tokens) (o : Options) :
    SpacingRule.applyAll o (tokens.flatMap Token.text) =
      tokens.flatMap fun t => escapeSlashes false (written (SpacingRule.enabled o) t) := by
  have hscan := Token.scan_flatMap_text hliteral hpairs
  have hwritten : ∀ ts : List Token, ts <:+ tokens →
      escapeSlashes false (ts.flatMap (written (SpacingRule.enabled o))) =
        ts.flatMap fun t => escapeSlashes false (written (SpacingRule.enabled o) t) := by
    intro ts hsuffix
    induction ts with
    | nil => rfl
    | cons t ts ih =>
        have hmem : t ∈ tokens := hsuffix.subset List.mem_cons_self
        rw [List.flatMap_cons, List.flatMap_cons,
          SpacingRule.escapeSlashes_written_append (hscan.symm ▸ hmem) (hliteral t hmem),
          ih ((List.suffix_cons t ts).trans hsuffix)]
  rw [SpacingRule.applyAll_eq, hscan]
  exact hwritten tokens (List.suffix_refl tokens)

/-- A body of literal tokens is refused only if it is too big. Where it is compiled, an answer is
worth one if and only if it is made of one word for each token. -/
theorem literal_tokens_iff {sub : SubPattern} {separator : String} {limits : Limits}
    {answer : List Char} {tokens : List Token} (hordered : sub.options.anyOrder = false)
    (hcase : sub.options.ignoreCase = false) (hliteral : ∀ t ∈ tokens, t.IsLiteral)
    (hpairs : Token.PairsFirst tokens)
    (hsub : sub.regexes = [String.ofList (tokens.flatMap Token.text)])
    (hlength : answer.length ≤ limits.answerLength) (hne : normalize sub.options answer ≠ []) :
    (∀ e, Compiled.ofSubPattern sub separator limits = .error e →
        e.refusal = .tooBig limits.programSize)
      ∧ ∀ compiled, Compiled.ofSubPattern sub separator limits = .ok compiled →
        ((compiled.evaluate limits answer).value = 1 ↔
          ∃ words, List.Forall₂ (Token.IsWord sub.options) tokens words
            ∧ normalize sub.options answer = words.flatten) := by
  obtain ⟨ps, hps⟩ := Pattern.exists_spellsWords_flatMap fun t ht =>
    (hliteral t ht).spellsWords sub.options
  obtain ⟨regex, hsearch, hcompile⟩ := hps.compile limits.programSize
  have hwhole : sub.wholeText separator = Pattern.wrapped (tokens.flatMap fun t =>
      escapeSlashes false (written (SpacingRule.enabled sub.options) t)) := by
    rw [SubPattern.wholeText_single hsub, String.toList_ofList, applyAll_literal hliteral hpairs]
  rw [← hwhole, ← hcase] at hcompile
  have hof := Compiled.ofSubPattern_eq_compile hordered separator limits
  rw [hcompile] at hof
  by_cases hbig : limits.programSize < regex.size
  · rw [if_pos hbig] at hof
    refine ⟨fun e he => ?_, fun compiled hok => ?_⟩
    · obtain rfl := Except.error.inj (hof.symm.trans he)
      rfl
    · simp [hof] at hok
  · rw [if_neg hbig] at hof hcompile
    refine ⟨fun e he => ?_, fun compiled hok => ?_⟩
    · simp [hof] at he
    · exact (Compiled.evaluate_eq_one hordered hcompile hok hlength hne).trans (hsearch _)

/-- A command line, with all the switches for blanks. -/
def SubPattern.commandLine : SubPattern :=
  ⟨["a ;<<\\*"], 100, "", ⟨false, false, true, true, false, true, true⟩⟩

/-- The blanks before the newline may belong to the space or to the semicolon, and those behind it
to the semicolon or to the redirection. -/
theorem literal_tokens_commandLine :
    ∃ compiled, Compiled.ofSubPattern .commandLine "\n" .default = .ok compiled
      ∧ (compiled.evaluate .default "a \t \n << *".toList).value = 1 := by
  have hliteral : ∀ t ∈ [Token.char 'a', .char ' ', .char ';', .pair '<', .escape '*'],
      t.IsLiteral := by decide
  have hpairs :
      Token.PairsFirst [Token.char 'a', .char ' ', .char ';', .pair '<', .escape '*'] := by
    simp [Token.PairsFirst]
  obtain ⟨-, hiff⟩ := @literal_tokens_iff .commandLine "\n" .default
    "a \t \n << *".toList _ rfl rfl hliteral hpairs rfl (by decide) (by decide)
  obtain ⟨compiled, hok⟩ : ∃ compiled,
      Compiled.ofSubPattern .commandLine "\n" .default = .ok compiled := ⟨_, by rfl⟩
  refine ⟨compiled, hok, (hiff compiled hok).mpr
    ⟨[['a'], [' ', '\t', ' '], ['\n'], [' ', '<', '<', ' '], ['*']], ?_, by decide⟩⟩
  refine .cons rfl (.cons ⟨by simp, by simp [IsBlanks]⟩ (.cons ?_ (.cons ?_ (.cons rfl .nil))))
  · exact ⟨[], ['\n'], [], rfl, by simp [IsBlanks], Or.inr rfl, by simp [IsBlanks]⟩
  · exact ⟨[' '], ['<', '<'], [' '], rfl, by simp [IsBlanks], rfl, by simp [IsBlanks]⟩

end Gapfill
