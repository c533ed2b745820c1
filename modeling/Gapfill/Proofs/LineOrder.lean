import Gapfill.Proofs.AnyOrderValue
import Mathlib.Data.List.Forall2

/-!
# Where the order of lines cannot matter

First fit goes by the order of the expressions and of the lines, and a different
order can change what it finds. There are two cases in which it cannot fail its
purpose. Where no line is accepted by two expressions, no expression takes a line
that another one could use; so an expression finds a line exactly if it accepts
one, in whatever order they all come (`assign_reordered`). And where the lines
come in the order of the expressions, each expression finds its own line: the ones
before it are taken by then (`assign_inOrder`), and the answer is worth one
(`evaluate_inOrder`).
-/

namespace Gapfill

/-! ## Expressions that share no line -/

/-- An expression that accepts no line of another one leaves all lines of the other. -/
theorem any_eraseP {accepts other : List Char → Bool} {lines : List (List Char)}
    (h : ∀ line ∈ lines, other line = true → ¬ accepts line = true) :
    (lines.eraseP accepts).any other = lines.any other := by
  rw [Bool.eq_iff_iff, List.any_eq_true, List.any_eq_true]
  constructor
  · rintro ⟨line, hline, hother⟩
    exact ⟨line, List.mem_of_mem_eraseP hline, hother⟩
  · rintro ⟨line, hline, hother⟩
    exact ⟨line, (List.mem_eraseP_of_neg (h line hline hother)).mpr hline, hother⟩

/-- Where no free line is accepted by two expressions, those find a line that accept a free one. -/
theorem found_of_apart (expressions : List (List Char → Bool)) :
    ∀ lines : List (Bool × List Char),
      (∀ line ∈ freeLines lines, (expressions.countP fun accepts => accepts line) ≤ 1) →
      foundLines expressions lines =
        expressions.countP fun accepts => (freeLines lines).any accepts := by
  induction expressions with
  | nil =>
      intro lines _
      rfl
  | cons accepts rest ih =>
      intro lines hapart
      obtain ⟨next, hfree, hfound, -⟩ := assignLines_cons accepts rest lines
      have hrest : ∀ line ∈ freeLines next, (rest.countP fun accepts => accepts line) ≤ 1 := by
        intro line hline
        rw [hfree] at hline
        have hone := hapart line (List.mem_of_mem_eraseP hline)
        rw [List.countP_cons] at hone
        omega
      have hsame : (rest.countP fun other => (freeLines next).any other) =
          rest.countP fun other => (freeLines lines).any other := by
        refine List.countP_congr fun other hother => ?_
        rw [hfree, any_eraseP]
        intro line hline haccepted haccepts
        have hone := hapart line hline
        have hpos : 0 < rest.countP fun accepts => accepts line :=
          List.countP_pos_iff.mpr ⟨other, hother, haccepted⟩
        rw [List.countP_cons, if_pos haccepts] at hone
        omega
      rw [hfound, ih next hrest, hsame, List.countP_cons, Nat.add_comm]
      cases (freeLines lines).any accepts <;> rfl

theorem assign_matched_of_apart {expressions : List (List Char → Bool)}
    {lines : List (List Char)}
    (hapart : ∀ line ∈ lines, (expressions.countP fun accepts => accepts line) ≤ 1) :
    (assign expressions lines).matched =
      expressions.countP fun accepts => lines.any accepts := by
  have hfound := found_of_apart expressions (lines.map fun line => (false, line))
  rw [freeLines_start] at hfound
  exact (assign_matched expressions lines).trans (hfound hapart)

/-- Where no line is accepted by two expressions, nothing changes with the order of the lines, nor
with that of the expressions: as many expressions find a line as accept one. -/
theorem assign_reordered {expressions expressions' : List (List Char → Bool)}
    {lines lines' : List (List Char)}
    (hapart : ∀ line ∈ lines, (expressions.countP fun accepts => accepts line) ≤ 1)
    (hexpressions : expressions'.Perm expressions) (hlines : lines'.Perm lines) :
    (assign expressions' lines').matched = (expressions.countP fun accepts => lines.any accepts)
      ∧ (assign expressions' lines').matched = (assign expressions lines).matched
      ∧ (assign expressions' lines').wrongLines = (assign expressions lines).wrongLines
      ∧ (assign expressions' lines').score = (assign expressions lines).score := by
  have hapart' : ∀ line ∈ lines', (expressions'.countP fun accepts => accepts line) ≤ 1 := by
    intro line hline
    rw [hexpressions.countP_eq]
    exact hapart line (hlines.mem_iff.mp hline)
  have hmatched : (assign expressions' lines').matched =
      expressions.countP fun accepts => lines.any accepts := by
    calc (assign expressions' lines').matched
        = expressions'.countP fun accepts => lines'.any accepts := assign_matched_of_apart hapart'
      _ = expressions.countP fun accepts => lines'.any accepts := hexpressions.countP_eq _
      _ = expressions.countP fun accepts => lines.any accepts :=
        List.countP_congr fun accepts _ => by rw [hlines.any_eq]
  have hsame := hmatched.trans (assign_matched_of_apart hapart).symm
  have hsum := assign_matched_add_wrongLines expressions lines
  have hsum' := assign_matched_add_wrongLines expressions' lines'
  have hlength := hlines.length_eq
  refine ⟨hmatched, hsame, by omega, ?_⟩
  rw [assign_score, assign_score, hsame, hlength, hexpressions.length_eq]

/-- The lines that begin with `a`, and those that begin with `b`. -/
def byFirstLetter : List (List Char → Bool) :=
  [fun line => line.head? == some 'a', fun line => line.head? == some 'b']

def mixedLines : List (List Char) := [['b'], ['c'], ['a', 'y'], ['a', 'x']]

/-- Backwards, the expression for `a` takes the line `ax`, and not `ay`. -/
theorem assign_reordered_backwards :
    (assign byFirstLetter.reverse mixedLines.reverse).lineOf = [some 3, some 0]
      ∧ (assign byFirstLetter mixedLines).lineOf = [some 2, some 0]
      ∧ (assign byFirstLetter.reverse mixedLines.reverse).matched = 2
      ∧ (assign byFirstLetter.reverse mixedLines.reverse).score =
        (assign byFirstLetter mixedLines).score := by
  obtain ⟨hmatched, -, -, hscore⟩ := assign_reordered
    (show ∀ line ∈ mixedLines, (byFirstLetter.countP fun accepts => accepts line) ≤ 1 by decide)
    byFirstLetter.reverse_perm mixedLines.reverse_perm
  exact ⟨by decide, by decide, hmatched, hscore⟩

/-! ## Lines in the order of the expressions -/

section InOrder

variable {expressions : List (List Char → Bool)} {lines : List (List Char)}

/-- Where each line is accepted by the expression at its place, each expression takes that line. -/
theorem lineOf_eq_self
    (h : List.Forall₂ (fun accepts line => accepts line = true) expressions lines)
    (e : Nat) (he : e < expressions.length) :
    (assign expressions lines).lineOf[e]? = some (some e) := by
  induction e using Nat.strong_induction_on with
  | _ e ih =>
      have hlines : e < lines.length := h.length_eq ▸ he
      have hsuits : Suits expressions lines e e :=
        ⟨expressions[e], lines[e], List.getElem?_eq_getElem he, List.getElem?_eq_getElem hlines,
          h.get he hlines⟩
      have hfree : ∀ f < e, (assign expressions lines).lineOf[f]? ≠ some (some e) := by
        intro f hf heq
        rw [ih f hf (Nat.lt_trans hf he)] at heq
        have : f = e := Option.some.inj (Option.some.inj heq)
        omega
      obtain ⟨found, hfound⟩ : ∃ found, (assign expressions lines).lineOf[e]? = some found :=
        ⟨_, List.getElem?_eq_getElem (length_lineOf expressions lines ▸ he)⟩
      have hfirst := assign_firstFit hfound
      cases found with
      | none => exact absurd ⟨hsuits, hfree⟩ (hfirst e)
      | some i =>
          rcases Nat.lt_trichotomy i e with hlt | rfl | hgt
          · -- the lines before are taken
            exact absurd (ih i hlt (Nat.lt_trans hlt he)) (hfirst.1.2 i hlt)
          · exact hfound
          · exact absurd ⟨hsuits, hfree⟩ (hfirst.2 e hgt)

theorem assign_inOrder
    (h : List.Forall₂ (fun accepts line => accepts line = true) expressions lines) :
    (assign expressions lines).lineOf = (List.range expressions.length).map some
      ∧ (assign expressions lines).score = expressions.length := by
  have hlineOf : (assign expressions lines).lineOf =
      (List.range expressions.length).map some := by
    refine List.ext_getElem? fun e => ?_
    by_cases he : e < expressions.length
    · rw [lineOf_eq_self h e he]
      simp [he]
    · have hlength := length_lineOf expressions lines
      rw [List.getElem?_eq_none (by omega), List.getElem?_eq_none (by simpa using he)]
  refine ⟨hlineOf, ?_⟩
  have hmatched : (assign expressions lines).matched = expressions.length := by
    calc (assign expressions lines).matched
        = (assign expressions lines).lineOf.countP Option.isSome := rfl
      _ = ((List.range expressions.length).map some).countP Option.isSome := by rw [hlineOf]
      _ = expressions.length := by simp [List.countP_map, Function.comp_def]
  rw [assign_score, hmatched, ← h.length_eq, Nat.sub_self, Nat.sub_zero]

end InOrder

/-- An answer with its lines in the order of the expressions is worth one, whatever other lines they
accept. There are no more expressions than a word of 64 bits can count. -/
theorem evaluate_inOrder {limits : Limits} {answer : List Char} {matchers : List Matcher}
    {separator : String} {options : Options} (hlength : answer.length ≤ limits.answerLength)
    (hne : normalize options answer ≠ []) (hpos : 1 ≤ matchers.length)
    (hcount : matchers.length < 2 ^ 64)
    (hinOrder : List.Forall₂ (fun m line => m.accepts line = true) matchers
      (answerLines separator options (normalize options answer))) :
    ∃ a, (Compiled.anyOrder matchers separator options).evaluate limits answer = ⟨1, some a⟩
      ∧ a.lineOf = (List.range matchers.length).map some := by
  have haccepted : List.Forall₂ (fun accepts line => accepts line = true)
      (matchers.map Matcher.accepts)
      (answerLines separator options (normalize options answer)) :=
    List.forall₂_map_left_iff.mpr hinOrder
  obtain ⟨hlineOf, hscore⟩ := assign_inOrder haccepted
  rw [List.length_map] at hlineOf hscore
  refine ⟨_, ?_, hlineOf⟩
  rw [Compiled.evaluate_anyOrder matchers separator hlength hne, hscore, Nat.max_eq_left hpos,
    Binary64.ofNat_div_self hpos (by decide) (Nat.le_of_lt hcount)]

/-- The lines `b` and `a`, of which the first expression accepts both. -/
theorem overlap_inOrder :
    List.Forall₂ (fun m line => m.accepts line = true) [Matcher.aOrB, Matcher.onlyA]
      (answerLines "\n" SubPattern.overlap.options "b\na".toList) := by
  have hlines : answerLines "\n" SubPattern.overlap.options "b\na".toList = [['b'], ['a']] := by
    decide
  rw [hlines]
  exact .cons (by decide +kernel) (.cons (by decide +kernel) .nil)

theorem evaluate_inOrder_overlap :
    Matcher.aOrB.accepts ['a'] = true
      ∧ ∃ a, (Compiled.anyOrder [Matcher.aOrB, Matcher.onlyA] "\n"
          SubPattern.overlap.options).evaluate .default "b\na".toList = ⟨1, some a⟩
        ∧ a.lineOf = [some 0, some 1] :=
  ⟨by decide +kernel,
    evaluate_inOrder (by decide) (by decide) (by decide) (by decide) overlap_inOrder⟩

end Gapfill
