import Gapfill.Answer
import Gapfill.Proofs.Pattern.Reading
import Gapfill.Proofs.Pattern.Search

/-!
# When a whole answer is worth one

A sub-pattern whose lines come in order is worth one or nothing. It is worth one
exactly if its anchored pattern compiles, the answer is admitted, and the search
finds a match (`evaluate_ofStored_eq_one`); compiling is reading, with a bound on
the depth and on the size of what is read (`compile_eq_ok`).
-/

namespace Gapfill

namespace Pattern

/-- What compiles is what the pattern denotes, if it is neither too deep nor too big. -/
theorem compile_eq_ok {ignoreCase dotNewline : Bool} {limit : Nat} {text : List Char}
    {regex : Regex} :
    compile ignoreCase dotNewline limit text = .ok regex ↔
      ∃ whole, Denotes ignoreCase dotNewline text whole ∧ whole.depth ≤ maxDepth
        ∧ whole.regex.size ≤ limit ∧ whole.regex = regex := by
  unfold compile
  constructor
  · intro h
    split at h
    · simp at h
    · rename_i regex' hparse
      split at h
      · simp at h
      · rename_i hsize
        obtain ⟨whole, hdenotes, hdepth, rfl⟩ := parse_iff.mp hparse
        exact ⟨whole, hdenotes, hdepth, Nat.le_of_not_lt hsize, Except.ok.inj h⟩
  · rintro ⟨whole, hdenotes, hdepth, hsize, rfl⟩
    rw [parse_iff.mpr ⟨whole, hdenotes, hdepth, rfl⟩]
    simp only [if_neg (Nat.not_lt_of_le hsize)]

end Pattern

/-- The text of a pattern from the end of a body on, with the bodies that come after it. -/
def closing (separator : String) : List (List Char) → List Char
  | [] => [')', '$']
  | body :: rest =>
    ')' :: (quoted separator.toList ++ "(?:".toList ++ body ++ closing separator rest)

theorem anchored_cons (separator : String) : ∀ (body : List Char) (rest : List (List Char)),
    anchored (body :: rest) separator = '^' :: ("(?:".toList ++ body ++ closing separator rest)
  | body, [] => by simp [anchored, closing, List.intercalate]
  | body, next :: rest => by
      have ih := anchored_cons separator next rest
      simp only [anchored, List.map_cons, List.intercalate_cons_cons, closing, List.cons_append,
        List.cons.injEq, true_and, List.append_assoc] at ih ⊢
      rw [ih, List.nil_append]

/-- The pattern that a sub-pattern with its lines in order is compiled from. -/
def SubPattern.wholeText (sub : SubPattern) (separator : String) : List Char :=
  anchored (sub.regexes.map fun body => SpacingRule.applyAll sub.options body.toList) separator

theorem eq_normalize_of_admitAnswer? {options : Options} {limits : Limits}
    {answer normalized : List Char} (h : admitAnswer? options limits answer = some normalized) :
    normalized = normalize options answer := by
  unfold admitAnswer? at h
  dsimp only at h
  split at h
  · simp at h
  · split at h
    · simp at h
    · exact (Option.some.inj h).symm

theorem admitAnswer?_eq_some {o : Options} {limits : Limits} {answer : List Char}
    (hlength : answer.length ≤ limits.answerLength) (hne : normalize o answer ≠ []) :
    admitAnswer? o limits answer = some (normalize o answer) := by
  unfold admitAnswer?
  rw [if_neg (Nat.not_lt.mpr hlength)]
  simp only [List.isEmpty_iff, hne, if_false]

theorem MatchResult.none_value_ne_one : MatchResult.none.value ≠ 1 := by decide +kernel

namespace Compiled

theorem ofSubPattern_ordered {sub : SubPattern} {separator : String} {limits : Limits}
    (hordered : sub.options.anyOrder = false) :
    ofSubPattern sub separator limits =
      (Matcher.compile (sub.wholeText separator) sub.options limits).map
        fun m => .ordered m sub.options := by
  unfold ofSubPattern
  rw [if_neg (by simp [hordered])]
  rfl

theorem ofStored_ordered {sub : SubPattern} {separator : String} {limits : Limits}
    (hordered : sub.options.anyOrder = false) :
    ofStored sub separator limits =
      match Matcher.compile (sub.wholeText separator) sub.options limits with
      | .ok matcher => .ordered matcher sub.options
      | .error e => .unusable e := by
  unfold ofStored
  rw [ofSubPattern_ordered hordered]
  cases Matcher.compile (sub.wholeText separator) sub.options limits <;> rfl

theorem ofSubPattern_eq_compile {sub : SubPattern} (hordered : sub.options.anyOrder = false)
    (separator : String) (limits : Limits) :
    ofSubPattern sub separator limits =
      match Pattern.compile sub.options.ignoreCase sub.options.dotNewline limits.programSize
        (sub.wholeText separator) with
      | .ok regex => .ok (.ordered ⟨String.ofList (sub.wholeText separator),
          sub.options.ignoreCase, sub.options.dotNewline, regex⟩ sub.options)
      | .error refusal => .error ⟨String.ofList (sub.wholeText separator), refusal⟩ := by
  rw [ofSubPattern_ordered hordered, Matcher.compile]
  cases Pattern.compile sub.options.ignoreCase sub.options.dotNewline limits.programSize
    (sub.wholeText separator) <;> rfl

theorem ofStored_of_ok {sub : SubPattern} {separator : String} {limits : Limits}
    {compiled : Compiled} (h : ofSubPattern sub separator limits = .ok compiled) :
    ofStored sub separator limits = compiled := by
  rw [ofStored, h]

/-- An answer is worth one exactly if it is admitted and the pattern for the whole of it compiles
and is found in it. -/
theorem evaluate_ofStored_eq_one {sub : SubPattern} {separator : String} {limits : Limits}
    {answer : List Char} (hordered : sub.options.anyOrder = false) :
    ((ofStored sub separator limits).evaluate limits answer).value = 1 ↔
      ∃ regex normalized,
        Pattern.compile sub.options.ignoreCase sub.options.dotNewline limits.programSize
          (sub.wholeText separator) = .ok regex
        ∧ admitAnswer? sub.options limits answer = some normalized
        ∧ regex.search normalized = true := by
  rw [ofStored_ordered hordered]
  unfold Matcher.compile
  dsimp only
  cases hregex : Pattern.compile sub.options.ignoreCase sub.options.dotNewline limits.programSize
      (sub.wholeText separator) with
  | error refusal => simp [evaluate, MatchResult.none_value_ne_one]
  | ok regex =>
      simp only [evaluate]
      cases hnormalized : admitAnswer? sub.options limits answer with
      | none => simp [MatchResult.none_value_ne_one]
      | some normalized =>
          simp only [Matcher.accepts, Except.ok.injEq, Option.some.injEq]
          by_cases hs : regex.search normalized = true
          · simp [hs]
          · have : (0 : Binary64) ≠ 1 := MatchResult.none_value_ne_one
            simp [hs, this]

/-- What was compiled is worth one for an answer that is admitted exactly if it is found there. -/
theorem evaluate_eq_one {sub : SubPattern} {separator : String} {limits : Limits}
    {answer : List Char} {compiled : Compiled} {regex : Pattern.Regex}
    (hordered : sub.options.anyOrder = false)
    (hregex : Pattern.compile sub.options.ignoreCase sub.options.dotNewline limits.programSize
      (sub.wholeText separator) = .ok regex)
    (hcompiled : ofSubPattern sub separator limits = .ok compiled)
    (hlength : answer.length ≤ limits.answerLength) (hne : normalize sub.options answer ≠ []) :
    (compiled.evaluate limits answer).value = 1 ↔
      regex.search (normalize sub.options answer) = true := by
  rw [← ofStored_of_ok hcompiled, evaluate_ofStored_eq_one hordered, hregex,
    admitAnswer?_eq_some hlength hne]
  simp

end Compiled

end Gapfill
