import Gapfill.Proofs.FirstFit
import Gapfill.Proofs.Number.Precision
import Gapfill.Proofs.WholeAnswer

/-!
# What lines in any order are worth

The score is computed in words of 64 bits with a sign. As long as no count has the
bit of the sign, none of the steps leaves the words, and the result is that of the
formula over the integers (`anyOrderScore64_exact`). Its absolute value and its
three maxima come down to one difference: a point for each expression that found a
line, less one for each line more than there are expressions (`assign_score`).

The share of the expressions that this is can be computed exactly enough for
counts of up to 53 bits: it is one only if every expression found a line of its
own and no line is left over (`anyOrder_worth`).
-/

namespace Gapfill

open Binary64 (ofNat_div_share_of_lt ofNat_div_eq_one_iff)

/-! ## Words with a sign -/

section Words

variable {a b : Int64}

theorem toInt_toInt64 {n : UInt64} (h : n.toNat < 2 ^ 63) : n.toInt64.toInt = n.toNat := by
  have hword : 2 * n.toBitVec.toNat < 2 ^ 64 := by
    rw [UInt64.toNat_toBitVec]
    omega
  exact BitVec.toInt_eq_toNat_of_lt hword

theorem toInt_sub_of_fits (hlow : -2 ^ 63 ≤ a.toInt - b.toInt)
    (hhigh : a.toInt - b.toInt < 2 ^ 63) : (a - b).toInt = a.toInt - b.toInt := by
  rw [Int64.toInt_sub]
  exact Int.bmod_eq_of_le (by omega) (by omega)

theorem toInt_neg_of_fits (h : -2 ^ 63 < a.toInt) : (-a).toInt = -a.toInt := by
  have := a.le_toInt
  have := a.toInt_lt
  rw [Int64.toInt_neg]
  exact Int.bmod_eq_of_le (by omega) (by omega)

theorem toInt_abs_of_fits (h : -2 ^ 63 < a.toInt) : a.abs.toInt = a.toInt.natAbs := by
  have habs : a.abs = if a.toInt < 0 then -a else a := by
    unfold Int64.abs BitVec.abs
    rw [BitVec.msb_eq_toInt]
    by_cases hneg : a.toInt < 0
    · rw [if_pos hneg]
      exact congrArg _ (congrArg _ (if_pos (decide_eq_true hneg)))
    · rw [if_neg hneg]
      exact congrArg _ (congrArg _ (if_neg (by simpa using hneg)))
  rw [habs]
  split
  · rw [toInt_neg_of_fits h]
    omega
  · omega

theorem toInt_max (a b : Int64) : (max a b).toInt = max a.toInt b.toInt := by
  change (if a ≤ b then b else a).toInt = _
  split
  · rename_i hle
    have := Int64.le_iff_toInt_le.mp hle
    omega
  · rename_i hle
    have := mt Int64.le_iff_toInt_le.mpr hle
    omega

theorem toNat_toUInt64 (h : 0 ≤ a.toInt) : (a.toUInt64.toNat : Int) = a.toInt := by
  have hle : (0 : Int64) ≤ a := Int64.le_iff_toInt_le.mpr h
  rw [Int64.toNat_toUInt64_of_le hle]
  exact Int.toNat_of_nonneg h

end Words

/-! ## The score in words -/

/-- A word, if it is the number that it should be. -/
def exactWord? (word : Int64) (number : Int) : Option Int64 :=
  if word.toInt = number then some word else none

theorem exactWord?_eq_some {word : Int64} {number : Int} (h : word.toInt = number) :
    exactWord? word number = some word := if_pos h

/-- The score as computed in words, with a check at each step: nothing comes out if a count or a
result is beyond the words. -/
def anyOrderScoreChecked? (maxScore answerLines wrongLines : UInt64) : Option UInt64 := do
  let most ← exactWord? maxScore.toInt64 maxScore.toNat
  let lines ← exactWord? answerLines.toInt64 answerLines.toNat
  let wrong ← exactWord? wrongLines.toInt64 wrongLines.toNat
  let delta ← exactWord? (most - lines) (most.toInt - lines.toInt)
  let surplus := max (← exactWord? (-delta) (-delta.toInt)) 0
  let beyond := max (← exactWord? (wrong - surplus) (wrong.toInt - surplus.toInt)) 0
  let distance ← exactWord? delta.abs delta.toInt.natAbs
  let rest ← exactWord? (most - distance) (most.toInt - distance.toInt)
  let score ← exactWord? (rest - beyond) (rest.toInt - beyond.toInt)
  return (max score 0).toUInt64

/-- For counts without the bit of the sign, no step leaves the words, and the score is the one over
the integers. -/
theorem anyOrderScore64_exact (maxScore answerLines wrongLines : UInt64)
    (hmost : maxScore.toNat < 2 ^ 63) (hlines : answerLines.toNat < 2 ^ 63)
    (hwrong : wrongLines.toNat < 2 ^ 63) :
    anyOrderScoreChecked? maxScore answerLines wrongLines =
        some (anyOrderScore64 maxScore answerLines wrongLines)
      ∧ (anyOrderScore64 maxScore answerLines wrongLines).toNat =
        anyOrderScore maxScore.toNat answerLines.toNat wrongLines.toNat := by
  have hmost' := toInt_toInt64 hmost
  have hlines' := toInt_toInt64 hlines
  have hwrong' := toInt_toInt64 hwrong
  unfold anyOrderScoreChecked? anyOrderScore64 anyOrderScore
  simp only [exactWord?_eq_some hmost', exactWord?_eq_some hlines', exactWord?_eq_some hwrong',
    Option.bind_eq_bind, Option.bind_some, Option.pure_def]
  generalize maxScore.toInt64 = most at *
  generalize answerLines.toInt64 = lines at *
  generalize wrongLines.toInt64 = wrong at *
  -- a difference of counts, and so its negation and its absolute value, is above the least word
  have hdelta : (most - lines).toInt = most.toInt - lines.toInt :=
    toInt_sub_of_fits (by omega) (by omega)
  simp only [exactWord?_eq_some hdelta, Option.bind_some]
  generalize most - lines = delta at *
  have hneg : (-delta).toInt = -delta.toInt := toInt_neg_of_fits (by omega)
  have habs : delta.abs.toInt = delta.toInt.natAbs := toInt_abs_of_fits (by omega)
  have hsurplus : (max (-delta) 0).toInt = max (-delta).toInt 0 := toInt_max (-delta) 0
  simp only [exactWord?_eq_some hneg, exactWord?_eq_some habs, Option.bind_some]
  generalize max (-delta) 0 = surplus at *
  have hexcess : (wrong - surplus).toInt = wrong.toInt - surplus.toInt :=
    toInt_sub_of_fits (by omega) (by omega)
  have hrest : (most - delta.abs).toInt = most.toInt - delta.abs.toInt :=
    toInt_sub_of_fits (by omega) (by omega)
  have hbeyond : (max (wrong - surplus) 0).toInt = max (wrong - surplus).toInt 0 :=
    toInt_max (wrong - surplus) 0
  simp only [exactWord?_eq_some hexcess, exactWord?_eq_some hrest, Option.bind_some]
  generalize max (wrong - surplus) 0 = beyond at *
  generalize most - delta.abs = rest at *
  -- where lines are wrong beyond the surplus, the surplus cancels in the last difference
  have hscore : (rest - beyond).toInt = rest.toInt - beyond.toInt :=
    toInt_sub_of_fits (by omega) (by omega)
  have hmax : (max (rest - beyond) 0).toInt = max (rest - beyond).toInt 0 :=
    toInt_max (rest - beyond) 0
  rw [exactWord?_eq_some hscore, Option.bind_some]
  refine ⟨rfl, ?_⟩
  have hword := toNat_toUInt64 (a := max (rest - beyond) 0) (by omega)
  omega

example : anyOrderScoreChecked? 0 9223372036854775808 0 = none := by decide

/-! ## The value of an assignment -/

/-- Every expression found a line, and no two the same. -/
def Assignment.Complete (a : Assignment) : Prop :=
  (∀ found ∈ a.lineOf, found.isSome = true) ∧ a.lineOf.Nodup

/-- What an assignment of lines to `n` expressions is worth: a point for each expression that found
a line, less one for each surplus line, but not less than nothing; and as a value the share of the
expressions, which is one only if the assignment is complete and leaves no line over. -/
structure Assignment.IsWorth (a : Assignment) (n : Nat) (value : Binary64) : Prop where
  score_eq : (a.score : Int) = max 0 ((a.matched : Int) - max 0 ((a.answerLines : Int) - n))
  score_words : a.score =
    (anyOrderScore64 (.ofNat n) (.ofNat a.answerLines) (.ofNat a.wrongLines)).toNat
  nonneg : Binary64.le 0 value = true
  le_one : value.le 1 = true
  eq_one_iff : value = 1 ↔ 1 ≤ n ∧ a.answerLines = n ∧ a.Complete

section Value

variable {expressions : List (List Char → Bool)} {lines : List (List Char)}

theorem assign_matched_eq_length_iff :
    (assign expressions lines).matched = expressions.length ↔
      (assign expressions lines).Complete := by
  have hmatched : (assign expressions lines).matched =
      (assign expressions lines).lineOf.countP Option.isSome := rfl
  rw [hmatched, ← length_lineOf expressions lines, List.countP_eq_length]
  refine ⟨fun hfound => ⟨hfound, ?_⟩, fun hcomplete => hcomplete.1⟩
  unfold List.Nodup
  rw [List.pairwise_iff_getElem]
  intro f e hf he hlt heq
  obtain ⟨i, hi⟩ := Option.isSome_iff_exists.mp (hfound _ (List.getElem_mem he))
  have hline : (assign expressions lines).lineOf[e]? = some (some i) :=
    (List.getElem?_eq_getElem he).trans (congrArg some hi)
  have hearlier : (assign expressions lines).lineOf[f]? = some (some i) :=
    (List.getElem?_eq_getElem hf).trans (congrArg some (heq.trans hi))
  exact (suits_of_lineOf hline).2 f hlt hearlier

/-- The full score is that of a complete assignment without surplus lines. -/
theorem assign_score_full_iff :
    (assign expressions lines).score = max expressions.length 1 ↔
      1 ≤ expressions.length ∧ lines.length = expressions.length
        ∧ (assign expressions lines).Complete := by
  have hle := assign_matched_le expressions lines
  have hsum := assign_matched_add_wrongLines expressions lines
  rw [assign_score, ← assign_matched_eq_length_iff]
  omega

theorem assign_isWorth (hexpressions : expressions.length < 2 ^ 53)
    (hlines : lines.length < 2 ^ 53) :
    (assign expressions lines).IsWorth expressions.length
      (.ofNat (assign expressions lines).score / .ofNat (max expressions.length 1)) := by
  have hscore := assign_score expressions lines
  have hle := assign_matched_le expressions lines
  have hsum := assign_matched_add_wrongLines expressions lines
  have hanswer : (assign expressions lines).answerLines = lines.length := rfl
  have hmost : (assign expressions lines).score ≤ max expressions.length 1 := by omega
  have hshare := ofNat_div_share_of_lt hmost (Nat.le_max_right _ 1) (by omega)
  refine ⟨by omega, ?_, hshare.bounds.1, hshare.bounds.2, ?_⟩
  · have hword : ∀ {n : Nat}, n < 2 ^ 53 → (UInt64.ofNat n).toNat = n := fun h =>
      UInt64.toNat_ofNat_of_lt (Nat.lt_trans h (by decide))
    have hwrong : (assign expressions lines).wrongLines < 2 ^ 53 := by omega
    obtain ⟨-, hexact⟩ := anyOrderScore64_exact (.ofNat expressions.length) (.ofNat lines.length)
      (.ofNat (assign expressions lines).wrongLines) (by rw [hword hexpressions]; omega)
      (by rw [hword hlines]; omega) (by rw [hword hwrong]; omega)
    rw [hanswer, hexact, hword hexpressions, hword hlines, hword hwrong]
    rfl
  · rw [ofNat_div_eq_one_iff hmost (Nat.le_max_right _ 1) (by omega)]
    exact assign_score_full_iff

end Value

/-! ## The value of an answer -/

theorem Compiled.evaluate_anyOrder {limits : Limits} {answer : List Char} (matchers : List Matcher)
    (separator : String) {options : Options} (hlength : answer.length ≤ limits.answerLength)
    (hne : normalize options answer ≠ []) :
    (anyOrder matchers separator options).evaluate limits answer =
      ⟨.ofNat (assign (matchers.map Matcher.accepts)
          (answerLines separator options (normalize options answer))).score
          / .ofNat (max matchers.length 1),
        some (assign (matchers.map Matcher.accepts)
          (answerLines separator options (normalize options answer)))⟩ := by
  simp only [evaluate, admitAnswer?_eq_some hlength hne]

/-- An answer that is matched at all is worth the share that its assignment is worth. -/
theorem Compiled.evaluate_isWorth {limits : Limits} {answer : List Char} {matchers : List Matcher}
    {separator : String} {options : Options} (hlength : answer.length ≤ limits.answerLength)
    (hne : normalize options answer ≠ []) (hmatchers : matchers.length < 2 ^ 53)
    (hlines : (answerLines separator options (normalize options answer)).length < 2 ^ 53) :
    ∃ value, (anyOrder matchers separator options).evaluate limits answer =
        ⟨value, some (assign (matchers.map Matcher.accepts)
          (answerLines separator options (normalize options answer)))⟩
      ∧ (assign (matchers.map Matcher.accepts)
          (answerLines separator options (normalize options answer))).IsWorth
            matchers.length value := by
  have hworth := assign_isWorth (List.length_map Matcher.accepts ▸ hmatchers) hlines
  rw [List.length_map] at hworth
  exact ⟨_, evaluate_anyOrder matchers separator hlength hne, hworth⟩

/-- The score in words is that of the documented formula over the integers, and no step of it leaves
the words; and an answer in lines is worth what the formula comes down to. -/
theorem anyOrder_worth :
    (∀ (limits : Limits) (answer : List Char) (matchers : List Matcher) (separator : String)
        (options : Options),
      answer.length ≤ limits.answerLength → normalize options answer ≠ [] →
      matchers.length < 2 ^ 53 →
      (answerLines separator options (normalize options answer)).length < 2 ^ 53 →
      ∃ value, (Compiled.anyOrder matchers separator options).evaluate limits answer =
          ⟨value, some (assign (matchers.map Matcher.accepts)
            (answerLines separator options (normalize options answer)))⟩
        ∧ (assign (matchers.map Matcher.accepts)
            (answerLines separator options (normalize options answer))).IsWorth
              matchers.length value)
      ∧ ∀ maxScore answerLines wrongLines : UInt64,
        maxScore.toNat < 2 ^ 63 → answerLines.toNat < 2 ^ 63 → wrongLines.toNat < 2 ^ 63 →
        anyOrderScoreChecked? maxScore answerLines wrongLines =
            some (anyOrderScore64 maxScore answerLines wrongLines)
          ∧ ((anyOrderScore64 maxScore answerLines wrongLines).toNat : Int) =
            max 0 ((maxScore.toNat : Int) - ((maxScore.toNat : Int) - answerLines.toNat).natAbs
              - max 0 ((wrongLines.toNat : Int)
                - max 0 (-((maxScore.toNat : Int) - answerLines.toNat)))) := by
  refine ⟨fun limits answer matchers separator options => Compiled.evaluate_isWorth,
    fun maxScore answerLines wrongLines hmost hlines hwrong => ?_⟩
  obtain ⟨hchecked, hexact⟩ :=
    anyOrderScore64_exact maxScore answerLines wrongLines hmost hlines hwrong
  refine ⟨hchecked, ?_⟩
  rw [hexact, anyOrderScore]
  omega

/-- The lines `a` and `b`, and the line `a`, in any order. -/
def SubPattern.overlap : SubPattern :=
  ⟨["a|b", "a"], 100, "O", { Options.default with anyOrder := true }⟩

def Matcher.aOrB : Matcher :=
  ⟨"^(?:a|b)$", false, false, .cat (.look .textStart)
    (.cat (.alt (.chars (.single 'a')) (.chars (.single 'b'))) (.look .textEnd))⟩

def Matcher.onlyA : Matcher :=
  ⟨"^(?:a)$", false, false,
    .cat (.look .textStart) (.cat (.chars (.single 'a')) (.look .textEnd))⟩

theorem SubPattern.overlap_matchers :
    (Compiled.compileEach overlap.options .default
      (overlap.regexes.map fun body => anchored [body.toList] "\n")).toOption =
        some [.aOrB, .onlyA] := by decide +kernel

theorem anyOrder_worth_overlap :
    (Compiled.compileEach SubPattern.overlap.options .default
        (SubPattern.overlap.regexes.map fun body => anchored [body.toList] "\n")).toOption =
          some [.aOrB, .onlyA]
      ∧ (Compiled.anyOrder [.aOrB, .onlyA] "\n" SubPattern.overlap.options).evaluate .default
          "a\nb".toList = ⟨.ofDecimal false 5 (-1), some ⟨[some 0, none], 2, 1, 1, 1⟩⟩
      ∧ (⟨[some 0, none], 2, 1, 1, 1⟩ : Assignment).IsWorth 2 (.ofDecimal false 5 (-1))
      ∧ anyOrderScoreChecked? 2 2 1 = some 1 := by
  have hvalue : (Compiled.anyOrder [.aOrB, .onlyA] "\n" SubPattern.overlap.options).evaluate
      .default "a\nb".toList = ⟨.ofDecimal false 5 (-1), some ⟨[some 0, none], 2, 1, 1, 1⟩⟩ := by
    decide +kernel
  obtain ⟨value, heq, hworth⟩ := anyOrder_worth.1 .default "a\nb".toList [.aOrB, .onlyA] "\n"
    SubPattern.overlap.options (by decide) (by decide) (by decide) (by decide)
  obtain ⟨rfl, hassign⟩ := MatchResult.mk.inj (heq.symm.trans hvalue)
  exact ⟨SubPattern.overlap_matchers, hvalue, Option.some.inj hassign ▸ hworth,
    (anyOrder_worth.2 2 2 1 (by decide) (by decide) (by decide)).1⟩

end Gapfill
