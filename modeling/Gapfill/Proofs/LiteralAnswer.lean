import Gapfill.Grade
import Gapfill.Proofs.Authored.WrittenField
import Gapfill.Proofs.Pattern.Literal

/-!
# A text as the pattern for itself

A text without metacharacters, with wide spaces and trimmed ends switched off, is
meant to be the pattern for itself. The block around it is trimmed before its
brackets are taken off, and the closing brackets are no longer there at that time;
so blanks at the end of the text are lost, while blanks at its start are kept. The
pattern that remains matches the text without the blanks at its end, and the text
itself is right exactly if it has none there (`literal_right_iff`).
-/

namespace Gapfill

/-! ## The field of a text -/

/-- What the author writes to have a text as the pattern. -/
def literalText (literal : List Char) : List Char :=
  '[' :: '[' :: (literal ++ [']', ']', '/', 's', 't', '/'])

/-- A text that has no character with a meaning in a pattern. -/
structure IsLiteral (literal : List Char) : Prop where
  ne_nil : literal ≠ []
  no_return : '\r' ∉ literal
  plain : ∀ c ∈ literal, Pattern.IsPlain c

instance (literal : List Char) : Decidable (IsLiteral literal) :=
  decidable_of_iff (literal ≠ [] ∧ '\r' ∉ literal
      ∧ literal.all (fun c => decide (Pattern.IsPlain c)) = true) (by
    simp only [List.all_eq_true, decide_eq_true_eq]
    exact ⟨fun ⟨hne, hreturn, hplain⟩ => ⟨hne, hreturn, hplain⟩,
      fun ⟨hne, hreturn, hplain⟩ => ⟨hne, hreturn, hplain⟩⟩)

/-- Wide spaces and trimmed ends are off. -/
def literalOptions : Options := Options.default.after ['s', 't']

def literalSub (body : List Char) : SubPattern :=
  ⟨[String.ofList body], fullWeight, "st", literalOptions⟩

def literalField (body : List Char) : Field :=
  { Field.empty with subPatterns := [literalSub body] }

theorem Tail.not_within_of_not_bracket {tail : Tail} {text : List Char} (h : ']' ∉ text) :
    ¬ tail.Within text := by
  rintro ⟨v, hv, m, after, rfl, -⟩
  exact h (hv.subset List.mem_cons_self)

theorem not_hasBareAnchor_of_plain {text : List Char} (h : ∀ c ∈ text, Pattern.IsPlain c) :
    ¬ HasBareAnchor text := by
  rintro ⟨u, c, v, rfl, hc, -⟩
  have hplain := h c (by simp)
  rcases hc with rfl | rfl <;> exact absurd hplain (by decide)

theorem not_bracket_of_plain {text : List Char} (h : ∀ c ∈ text, Pattern.IsPlain c) :
    ']' ∉ text := fun hmem => absurd (h ']' hmem) (by decide)

theorem bodyTexts_of_plain {text : List Char} (h : ∀ c ∈ text, Pattern.IsPlain c) :
    bodyTexts text = [text] :=
  bodies_joined 0 (Tail.not_within_of_not_bracket (not_bracket_of_plain h))
    (fun _ hother => absurd hother List.not_mem_nil)

/-- The block around a text is clean, and its expression is the text without the blanks at its
end. -/
def literalBlock {literal : List Char} (h : ∀ c ∈ literal, Pattern.IsPlain c) :
    CleanBlock .default (literalText literal) where
  raw := '[' :: '[' :: literal
  ending := ⟨[], ['s', 't']⟩
  rest := []
  cut := by
    have hend : BlockEnd.Valid ⟨[], ['s', 't']⟩ :=
      ⟨List.all_eq_true.mp (by decide), List.all_eq_true.mp (by decide)⟩
    have hraw : ']' ∉ '[' :: '[' :: literal := by simp [not_bracket_of_plain h]
    exact cutAtBlockEnd_of_clear hend (Clear.of_not_bracket hraw)
  inner := trimEnd literal
  brackets := trimEnd_append_cons (by decide) ['['] literal
  no_anchor := by
    have hplain : ∀ c ∈ trimEnd literal, Pattern.IsPlain c :=
      fun c hc => h c ((trimEnd_prefix_self literal).subset hc)
    rw [bodyTexts_of_plain hplain]
    exact List.forall_mem_singleton.mpr (not_hasBareAnchor_of_plain hplain)
  resolved := literalOptions
  letters := rfl

theorem literalBlock_subPattern {literal : List Char} (h : ∀ c ∈ literal, Pattern.IsPlain c) :
    (literalBlock h).subPattern fullWeight = literalSub (trimEnd literal) := by
  change SubPattern.mk ((bodyTexts (trimEnd literal)).map String.ofList) fullWeight _ _ = _
  rw [bodyTexts_of_plain fun c hc => h c ((trimEnd_prefix_self literal).subset hc)]
  rfl

/-! ## Reading it -/

/-- The pattern for a text keeps within the limit on the size of a program. -/
def Fits (limits : Limits) (literal : List Char) : Prop :=
  Pattern.compile false false limits.programSize
    (Pattern.wrapped (SpacingRule.escapeSlashes false literal))
      ≠ .error (.tooBig limits.programSize)

/-- With a text, the text without the blanks at its end keeps within the limit. -/
theorem Fits.compile_trimEnd {limits : Limits} {literal : List Char}
    (hplain : ∀ c ∈ literal, Pattern.IsPlain c) (h : Fits limits literal) :
    Pattern.compile false false limits.programSize
        (Pattern.wrapped (SpacingRule.escapeSlashes false (trimEnd literal))) =
      .ok (Pattern.anchoredLiteral false (trimEnd literal)) := by
  have hsize : ¬ limits.programSize < (Pattern.anchoredLiteral false literal).size := by
    intro hlt
    refine h ?_
    rw [Pattern.compile_literal hplain, if_pos hlt]
  have hle : (Pattern.anchoredLiteral false (trimEnd literal)).size ≤
      (Pattern.anchoredLiteral false literal).size :=
    Pattern.anchoredLiteral_size_mono (trimEnd_prefix_self literal)
  rw [Pattern.compile_literal fun c hc => hplain c ((trimEnd_prefix_self literal).subset hc),
    if_neg (by omega)]

theorem wholeText_literalSub (body : List Char) (separator : String) :
    (literalSub body).wholeText separator =
      Pattern.wrapped (SpacingRule.escapeSlashes false body) := by
  have hsub : (literalSub body).regexes = [String.ofList body] := rfl
  have hrules : SpacingRule.applyAll literalOptions body =
      SpacingRule.escapeSlashes false body := rfl
  rw [SubPattern.wholeText_single hsub, String.toList_ofList]
  exact congrArg Pattern.wrapped hrules

theorem Fits.ofSubPattern_ok {limits : Limits} {literal : List Char}
    (hplain : ∀ c ∈ literal, Pattern.IsPlain c) (h : Fits limits literal) (separator : String) :
    ∃ compiled, Compiled.ofSubPattern (literalSub (trimEnd literal)) separator limits =
      .ok compiled := by
  have hcompile := h.compile_trimEnd hplain
  rw [← wholeText_literalSub _ separator] at hcompile
  have hcase : literalOptions.ignoreCase = false := rfl
  have hdot : literalOptions.dotNewline = false := rfl
  obtain ⟨matcher, hmatcher⟩ : ∃ matcher, Matcher.compile
      ((literalSub (trimEnd literal)).wholeText separator) literalOptions limits = .ok matcher := by
    simp only [Matcher.compile, hcase, hdot, hcompile]
    exact ⟨_, rfl⟩
  exact ⟨.ordered matcher literalOptions,
    (Compiled.ofSubPattern_ordered rfl).trans (congrArg _ hmatcher)⟩

/-- The text is read as the field for what remains of it. -/
theorem parse_literalText {literal : List Char} (h : IsLiteral literal)
    (hfits : Fits .default literal) (flavor : Flavor) :
    Field.parse flavor (String.ofList (literalText literal)) =
      .ok (literalField (trimEnd literal)) := by
  have hreturns : (literalText literal).filter (· != '\r') = literalText literal :=
    dropReturns_eq_self (by simp [literalText, h.no_return])
  obtain ⟨n, hread⟩ : ∃ n, readBlock .default (literalText literal) true 0 (literalText literal) =
      ⟨[], some (literalSub (trimEnd literal)),
        some (skipBlanks n ([] ++ (blocksText [] ++ keyLinesText [])))⟩ := by
    rw [← literalBlock_subPattern h.plain]
    exact ⟨_, (literalBlock h.plain).readBlockBody_eq _ true fullWeight 0⟩
  have hstart : ∀ c ∈ (literalText literal).head?, isBlank c = false := fun c hc => by
    obtain rfl : '[' = c := Option.some.inj hc
    decide
  have hcompiles : (literalField (trimEnd literal)).compileProblems = [] :=
    Field.compileProblems_eq_nil_iff.mpr
      (List.forall_mem_singleton.mpr (hfits.ofSubPattern_ok h.plain _))
  unfold Field.parse
  rw [String.toList_ofList, hreturns]
  exact Field.parseSource_of_block hstart hread (by simp) (Nat.zero_le _) (by simp) (by simp)
    .nil rfl hcompiles

/-! ## Answers -/

/-- A text is worth one against what remains of it if nothing was lost. -/
theorem evaluate_literalSub {limits : Limits} {literal : List Char} (h : IsLiteral literal)
    (hlength : literal.length ≤ limits.answerLength) (hfits : Fits limits literal)
    (separator : String) :
    ((Compiled.ofStored (literalSub (trimEnd literal)) separator limits).evaluate limits
      literal).value = 1 ↔ trimEnd literal = literal := by
  have hadmitted : admitAnswer? literalOptions limits literal = some literal := by
    have hkept : normalize literalOptions literal = literal := dropReturns_eq_self h.no_return
    unfold admitAnswer?
    rw [if_neg (Nat.not_lt.mpr hlength)]
    simp only [hkept]
    rw [if_neg (mt List.isEmpty_iff.mp h.ne_nil)]
  have hcompile := hfits.compile_trimEnd h.plain
  rw [← wholeText_literalSub _ separator] at hcompile
  rw [Compiled.evaluate_ofStored_eq_one rfl]
  constructor
  · rintro ⟨regex, normalized, hregex, hnormalized, hsearch⟩
    obtain rfl := Except.ok.inj (hcompile.symm.trans hregex)
    obtain rfl := Option.some.inj (hadmitted.symm.trans hnormalized)
    exact ((Pattern.search_anchoredLiteral false _ _).mp hsearch).symm
  · intro hsame
    exact ⟨_, literal, hcompile, hadmitted,
      (Pattern.search_anchoredLiteral false _ _).mpr hsame.symm⟩

/-- With one sub-pattern, the best match is that with it. -/
theorem Field.best?_eq_one_iff {field : Field} {sub : SubPattern}
    (hsub : field.subPatterns = [sub]) (limits : Limits) (answer : String) :
    (∃ best, field.best? limits answer = some best ∧ best.value = 1) ↔
      ((Compiled.ofStored sub field.separator limits).evaluate limits answer.toList).value = 1 := by
  have hbest : field.best? limits answer =
      if ((Compiled.ofStored sub field.separator limits).evaluate limits answer.toList).matched then
        some ⟨field.points * ((Compiled.ofStored sub field.separator limits).evaluate limits
            answer.toList).value * sub.weightFraction, 0,
          ((Compiled.ofStored sub field.separator limits).evaluate limits answer.toList).value⟩
      else none := by
    unfold Field.best?
    rw [hsub]
    rfl
  rw [hbest]
  generalize (Compiled.ofStored sub field.separator limits).evaluate limits answer.toList = result
  constructor
  · rintro ⟨best, h, hone⟩
    split at h
    · obtain rfl := Option.some.inj h
      exact hone
    · simp at h
  · intro hone
    have hmatched : result.matched = true := by
      unfold MatchResult.matched
      rw [hone]
      decide +kernel
    rw [if_pos hmatched]
    exact ⟨_, rfl, hone⟩

/-- A text is read as a pattern in every flavor, and it is the right answer itself exactly if it
does not end with a blank. -/
theorem literal_right_iff {literal : List Char} (h : IsLiteral literal) {limits : Limits}
    (hlength : literal.length ≤ limits.answerLength) (hread : Fits .default literal)
    (hfits : Fits limits literal) (flavor : Flavor) :
    ∃ field, Field.parse flavor (String.ofList (literalText literal)) = .ok field
      ∧ ((∃ best, field.best? limits (String.ofList literal) = some best ∧ best.value = 1) ↔
        ∀ c ∈ literal.getLast?, isBlank c = false) := by
  refine ⟨_, parse_literalText h hread flavor, ?_⟩
  rw [Field.best?_eq_one_iff rfl, String.toList_ofList, evaluate_literalSub h hlength hfits]
  exact trimEnd_eq_self_iff

/-- A command with a slash and blanks within. -/
def listFiles : List Char := "ls -la /tmp".toList

theorem literal_right_listFiles :
    IsLiteral listFiles ∧ listFiles.length ≤ Limits.default.answerLength ∧ Fits .default listFiles
      ∧ ∃ field, Field.parse .single (String.ofList (literalText listFiles)) = .ok field
        ∧ ∃ best, field.best? .default (String.ofList listFiles) = some best ∧ best.value = 1 := by
  have hliteral : IsLiteral listFiles := by decide +kernel
  have hlength : listFiles.length ≤ Limits.default.answerLength := by decide +kernel
  have hfits : Fits .default listFiles := by
    unfold Fits
    decide +kernel
  obtain ⟨field, hparse, hright⟩ := literal_right_iff hliteral hlength hfits hfits .single
  have hlast : listFiles.getLast? = some 'p' := by decide +kernel
  refine ⟨hliteral, hlength, hfits, field, hparse, hright.mpr fun c hc => ?_⟩
  obtain rfl : 'p' = c := Option.some.inj (hlast.symm.trans hc)
  decide

/-- The letter with a blank behind it is no answer to itself. -/
theorem literal_with_last_blank :
    IsLiteral ['a', ' '] ∧ ['a', ' '].length ≤ Limits.default.answerLength
      ∧ Fits .default ['a', ' ']
      ∧ Field.parse .cloze (String.ofList (literalText ['a', ' '])) = .ok (literalField ['a'])
      ∧ (literalField ['a']).best? .default (String.ofList ['a', ' ']) = none := by
  have hliteral : IsLiteral ['a', ' '] := by decide
  have hfits : Fits .default ['a', ' '] := by
    unfold Fits
    decide +kernel
  exact ⟨hliteral, by decide, hfits, parse_literalText hliteral hfits .cloze, by decide +kernel⟩

end Gapfill
