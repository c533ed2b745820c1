import Gapfill.Authored.FieldText
import Gapfill.Proofs.WholeAnswer

/-!
# The wrapper around a pattern

A body is pasted between `^(?:` and `)$` and then read as a whole. The wrapper
does what it is there for, the whole answer has to match the body, as long as no
parenthesis in the body closes the group of the wrapper. A body such as
`a)|(?:b` does that: pasted into the wrapper it is a pattern with two
alternatives, each with one anchor only, though it is no pattern by itself.

`ClosesUnopened` says of a text that this happens. It is the exact condition
(`matches_whole_iff`): where an answer is worth one, the body is a pattern that
matches all of it if and only if the body closes no group that it has not
opened.
-/

namespace Gapfill

namespace Pattern

/-- Reading the text comes to a parenthesis that closes a group where none is open. -/
def ClosesUnopened (ignoreCase dotNewline : Bool) (text : List Char) : Prop :=
  ∃ r u v, Reader.Reads (.start ignoreCase dotNewline) text r u ∧ r.flags.skip u = ')' :: v
    ∧ r.outer = []

variable {ignoreCase dotNewline : Bool} {body : List Char}

/-- A text that closes what it has not opened is no pattern. -/
theorem ClosesUnopened.not_denotes (h : ClosesUnopened ignoreCase dotNewline body) {whole : Piece} :
    ¬ Denotes ignoreCase dotNewline body whole := by
  obtain ⟨r, u, v, hreads, hskip, houter⟩ := h
  rintro ⟨r', z, hreads', hend, -, -⟩
  cases hreads.to_end hreads' hend with
  | refl => simp [hend] at hskip
  | step hskip' hstep =>
      obtain ⟨rfl, rfl⟩ := List.cons.inj (hskip.symm.trans hskip')
      simp [Reader.step, Reader.closeGroup?, houter] at hstep

/-! ## Reading the wrapper -/

/-- A body between the anchors. -/
def wrapped (body : List Char) : List Char := '^' :: '(' :: '?' :: ':' :: (body ++ [')', '$'])

/-- What the reader keeps of the wrapper while it reads the body. -/
def wrapperFrame (ignoreCase dotNewline : Bool) : Flags × Frame :=
  (.initial ignoreCase dotNewline, ⟨[], [.piece (.flat (.look .textStart))]⟩)

theorem reads_wrapper_start (ignoreCase dotNewline : Bool) (s : List Char) :
    Reader.Reads (.start ignoreCase dotNewline) ('^' :: '(' :: '?' :: ':' :: s)
      ((Reader.start ignoreCase dotNewline).under [wrapperFrame ignoreCase dotNewline]) s :=
  .step (u := '(' :: '?' :: ':' :: s) rfl rfl (.single (u := '?' :: ':' :: s) rfl rfl)

/-- The reader behind the wrapper, if `r` has read the body. -/
def wrapperEnd (ignoreCase dotNewline : Bool) (r : Reader) : Reader :=
  ⟨⟨[], [.piece (.flat (.look .textEnd)), .piece ⟨r.frame.total.regex, r.frame.total.depth + 1⟩,
    .piece (.flat (.look .textStart))]⟩, [], .initial ignoreCase dotNewline, r.names⟩

theorem reads_wrapper_end (ignoreCase dotNewline : Bool) {r : Reader} {u : List Char}
    (houter : r.outer = []) (hskip : r.flags.skip u = [')', '$']) :
    Reader.Reads (r.under [wrapperFrame ignoreCase dotNewline]) u
      (wrapperEnd ignoreCase dotNewline r) [] := by
  have hclose : (r.under [wrapperFrame ignoreCase dotNewline]).step ')' ['$'] =
      some (⟨⟨[], [.piece ⟨r.frame.total.regex, r.frame.total.depth + 1⟩,
        .piece (.flat (.look .textStart))]⟩, [], .initial ignoreCase dotNewline, r.names⟩,
        ['$']) := by
    simp [Reader.step, Reader.closeGroup?, Reader.under, houter, wrapperFrame, Frame.push]
  exact .step hskip hclose (.single (u := []) rfl rfl)

/-- What the wrapper makes of a body. -/
def wrapPiece (inner : Piece) : Piece :=
  ⟨.catOf [.look .textStart, inner.regex, .look .textEnd], inner.depth + 2⟩

theorem wrapperEnd_total (ignoreCase dotNewline : Bool) (r : Reader) :
    (wrapperEnd ignoreCase dotNewline r).frame.total = wrapPiece r.frame.total := by
  simp [wrapperEnd, wrapPiece, Frame.total, Frame.branch, Item.regex?, Item.depth, Piece.flat]
  omega

/-- A wrapped text that is a pattern has in it a body that is one, unless the body closes the
group of the wrapper. -/
theorem Denotes.of_wrapped {whole : Piece}
    (h : Denotes ignoreCase dotNewline (wrapped body) whole)
    (hbody : ¬ ClosesUnopened ignoreCase dotNewline body) :
    ∃ inner, Denotes ignoreCase dotNewline body inner ∧ whole = wrapPiece inner := by
  obtain ⟨r, z, hreads, hend, houter, rfl⟩ := h
  have hbehind : ∀ f, Behind f [')', '$'] [] := fun _ => ⟨by simp, by simp⟩
  have hswap : Swap [')', '$'] [] (body ++ [')', '$']) body := by
    have hend : Swap [')', '$'] [] [')', '$'] [] := .tail
    simpa using hend.append body
  -- the run over the body and beyond, inside of the wrapper
  have hinside : Reader.Reads ((Reader.start ignoreCase dotNewline).under
      [wrapperFrame ignoreCase dotNewline]) (body ++ [')', '$']) r z :=
    (reads_wrapper_start ignoreCase dotNewline _).to_end hreads hend
  rcases hinside.of_under rfl with ⟨r', rfl, -⟩ | ⟨r', u, v, hr', hskip, houter', hrest⟩
  · simp [Reader.under] at houter
  have hv : ')' :: v <:+ body ++ [')', '$'] := hskip ▸ (r'.flags.skip_suffix u).trans hr'.suffix
  have hlen : v ≠ [] := by
    rintro rfl
    obtain ⟨p, hp⟩ := hv
    have := congrArg List.getLast? hp
    simp at this
  by_cases hlast : v.length = 1
  · -- the group is closed by the parenthesis of the wrapper, where the body is at its end
    have hwrap : ')' :: v = [')', '$'] :=
      (List.suffix_of_suffix_length_le hv (List.suffix_append body _)
        (by simp [hlast])).eq_of_length (by simp [hlast])
    obtain ⟨u', hu', hend'⟩ := hr'.swap_end hbehind hswap (hskip.trans hwrap) (by simp)
    refine ⟨r'.frame.total, ⟨r', u', hu', hend', houter', rfl⟩, ?_⟩
    have hdone := reads_wrapper_end ignoreCase dotNewline houter' (hskip.trans hwrap)
    rw [← wrapperEnd_total ignoreCase dotNewline, ((hdone.to_end hrest hend).eq_of_end rfl).1]
  · -- it is closed by a parenthesis of the body
    have hlong : [')', '$'].length ≤ v.length := by
      have := List.length_pos_iff.mpr hlen
      simp only [List.length_cons, List.length_nil]
      omega
    have hu := length_le_of_suffix hlong (Flags.tail_suffix_of_skip hskip)
    obtain ⟨u', hu', hus⟩ := hr'.swap_of_next hbehind hswap hu (by simp [hskip])
    obtain ⟨v', hskip', -⟩ := Flags.skip_swap_cons (hbehind _) hus hskip hlong
    exact absurd ⟨r', u', v', hu', hskip', houter'⟩ hbody

end Pattern

/-! ## Answers to one pattern -/

/-- The text of a sub-pattern with one expression is this expression, wrapped. -/
theorem SubPattern.wholeText_single {sub : SubPattern} {body separator : String}
    (hsub : sub.regexes = [body]) :
    sub.wholeText separator =
      Pattern.wrapped (SpacingRule.applyAll sub.options body.toList) := by
  simp [SubPattern.wholeText, hsub, anchored, Pattern.wrapped, List.intercalate]

/-- Where an answer is worth one against a sub-pattern with one expression, the expression by
itself is a pattern that matches the whole of the answer, if and only if it closes no group that
it has not opened. -/
theorem matches_whole_iff {sub : SubPattern} {body separator : String} {limits : Limits}
    {answer : List Char} (hordered : sub.options.anyOrder = false) (hsub : sub.regexes = [body])
    (hone : ((Compiled.ofStored sub separator limits).evaluate limits answer).value = 1) :
    (∃ regex, Pattern.parse sub.options.ignoreCase sub.options.dotNewline
        (SpacingRule.applyAll sub.options body.toList) = some regex
      ∧ regex.Matches none (normalize sub.options answer) none) ↔
    ¬ Pattern.ClosesUnopened sub.options.ignoreCase sub.options.dotNewline
        (SpacingRule.applyAll sub.options body.toList) := by
  constructor
  · rintro ⟨regex, hparse, -⟩ hcloses
    obtain ⟨whole, hdenotes, -⟩ := Pattern.parse_iff.mp hparse
    exact hcloses.not_denotes hdenotes
  · intro hcloses
    obtain ⟨regex, normalized, hcompile, hnormalized, hsearch⟩ :=
      (Compiled.evaluate_ofStored_eq_one hordered).mp hone
    obtain ⟨whole, hdenotes, hdepth, -, rfl⟩ := Pattern.compile_eq_ok.mp hcompile
    rw [SubPattern.wholeText_single hsub] at hdenotes
    obtain ⟨inner, hinner, rfl⟩ := hdenotes.of_wrapped hcloses
    refine ⟨inner.regex, Pattern.parse_iff.mpr ⟨inner, hinner, ?_, rfl⟩, ?_⟩
    · exact Nat.le_trans (Nat.le_add_right _ 2) hdepth
    · rw [← eq_normalize_of_admitAnswer? hnormalized]
      exact (Pattern.Regex.search_anchored_iff hinner.bounded).mp hsearch

/-- A sub-pattern with the default options and full weight. -/
def SubPattern.plain (body : String) : SubPattern := ⟨[body], 100, "", .default⟩

theorem matches_whole_alternation :
    ((Compiled.ofStored (.plain "(a|b)c?") "\n" .default).evaluate .default "bc".toList).value = 1 ∧
      ((∃ regex, Pattern.parse false false "(a|b)c?".toList = some regex
          ∧ regex.Matches none "bc".toList none) ↔
        ¬ Pattern.ClosesUnopened false false "(a|b)c?".toList) := by
  have hone : ((Compiled.ofStored (.plain "(a|b)c?") "\n" .default).evaluate .default
      "bc".toList).value = 1 := by decide +kernel
  have hsub : (SubPattern.plain "(a|b)c?").regexes = ["(a|b)c?"] := rfl
  exact ⟨hone, matches_whole_iff rfl hsub hone⟩

/-- An answer that goes on behind what the author wrote is worth one: of the two alternatives that
the pasted pattern has, the first is anchored at the start only. -/
theorem unopened_group_accepts_more :
    (Field.parse .cloze "[[a)|(?:b]]//").toOption
        = some { Field.empty with subPatterns := [.plain "a)|(?:b"] }
      ∧ ((Compiled.ofStored (.plain "a)|(?:b") "\n" .default).evaluate .default
          "axyz".toList).value = 1
      ∧ Pattern.parse false false (SpacingRule.applyAll .default "a)|(?:b".toList) = none := by
  decide +kernel

end Gapfill
