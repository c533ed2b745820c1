import Gapfill.Grade

/-!
# The matches of a field

The best match of a field is found in one loop over its sub-patterns, which
evaluates each, passes over those that do not match, and keeps the better of two
matches. Taken apart, this is the list of all the matches in the order of the
sub-patterns (`Field.matchesFrom`), and one pass over that list (`bestOf`).

So the best match is one of the matches, and whatever all matches of a field have,
the best one has (`Field.isMatch_of_best?`).
-/

namespace Gapfill

/-! ## The pass over a list of matches -/

/-- Goes through matches and keeps the better of two; `best` is the best one so far. -/
def bestOf (best : Option BestMatch) (ms : List BestMatch) : Option BestMatch :=
  ms.foldl (fun best next => some (Field.better best next)) best

theorem mem_of_bestOf : ∀ {ms : List BestMatch} {best : Option BestMatch} {b : BestMatch},
    bestOf best ms = some b → best = some b ∨ b ∈ ms
  | [], _, _, h => Or.inl h
  | m :: ms, best, b, h => by
      have hstep : bestOf best (m :: ms) = bestOf (some (Field.better best m)) ms := rfl
      rw [hstep] at h
      rcases mem_of_bestOf h with hbetter | hmem
      · obtain rfl := Option.some.inj hbetter
        unfold Field.better
        split
        · exact Or.inr List.mem_cons_self
        · split
          · exact Or.inr List.mem_cons_self
          · exact Or.inl rfl
      · exact Or.inr (List.mem_cons_of_mem m hmem)

/-! ## The list of the matches -/

theorem MatchResult.matched_none : MatchResult.none.matched = false := by decide +kernel

namespace Field

/-- The sub-pattern as a match, if the answer matches it; `index` is its place in the field. -/
def matchWith? (limits : Limits) (field : Field) (answer : String) (sub : SubPattern)
    (index : Nat) : Option BestMatch :=
  let result := (Compiled.ofStored sub field.separator limits).evaluate limits answer.toList
  if result.matched then
    some ⟨field.points * result.value * sub.weightFraction, index, result.value⟩
  else none

/-- The matches with sub-patterns of the field, the first of which has the index `index`. -/
def matchesFrom (limits : Limits) (field : Field) (answer : String) (index : Nat)
    (subs : List SubPattern) : List BestMatch :=
  (subs.zipIdx index).filterMap fun entry => field.matchWith? limits answer entry.1 entry.2

/-- A match is one of the sub-patterns, and earns the points times its value times its weight. -/
structure IsMatch (limits : Limits) (field : Field) (answer : String) (m : BestMatch) : Prop where
  matched : (field.evaluate limits m.subPattern answer).matched = true
  value_eq : m.value = (field.evaluate limits m.subPattern answer).value
  earned_eq : ∃ sub, field.subPatterns[m.subPattern]? = some sub
    ∧ m.earned = field.points * m.value * sub.weightFraction

variable {limits : Limits} {field : Field} {answer : String}

theorem matchesFrom_cons (sub : SubPattern) (index : Nat) (rest : List SubPattern) :
    field.matchesFrom limits answer index (sub :: rest) =
      (field.matchWith? limits answer sub index).toList
        ++ field.matchesFrom limits answer (index + 1) rest := by
  unfold matchesFrom
  rw [List.zipIdx_cons, List.filterMap_cons]
  cases field.matchWith? limits answer sub index <;> rfl

theorem bestFrom_eq_bestOf : ∀ (subs : List SubPattern) (index : Nat) (best : Option BestMatch),
    bestFrom limits field answer index best subs =
      bestOf best (field.matchesFrom limits answer index subs)
  | [], _, _ => rfl
  | sub :: rest, index, best => by
      rw [bestFrom, bestFrom_eq_bestOf rest, matchesFrom_cons, matchWith?]
      split <;> rfl

theorem best?_eq_bestOf (limits : Limits) (field : Field) (answer : String) :
    field.best? limits answer =
      bestOf none (field.matchesFrom limits answer 0 field.subPatterns) :=
  bestFrom_eq_bestOf _ _ _

theorem evaluate_eq {index : Nat} {sub : SubPattern} (h : field.subPatterns[index]? = some sub) :
    field.evaluate limits index answer =
      (Compiled.ofStored sub field.separator limits).evaluate limits answer.toList := by
  unfold evaluate
  rw [h]

theorem evaluate_eq_none {index : Nat} (h : field.subPatterns[index]? = none) :
    field.evaluate limits index answer = .none := by
  unfold evaluate
  rw [h]

theorem matchWith?_eq_some {sub : SubPattern} {index : Nat} {m : BestMatch}
    (hsub : field.subPatterns[index]? = some sub) :
    field.matchWith? limits answer sub index = some m ↔
      m.subPattern = index ∧ field.IsMatch limits answer m := by
  unfold matchWith?
  rw [← evaluate_eq hsub]
  dsimp only
  constructor
  · intro h
    split at h
    · rename_i hmatched
      obtain rfl := Option.some.inj h
      exact ⟨rfl, hmatched, rfl, sub, hsub, rfl⟩
    · exact absurd h nofun
  · rintro ⟨rfl, hmatched, hvalue, sub', hsub', hearned⟩
    obtain rfl := Option.some.inj (hsub.symm.trans hsub')
    rw [if_pos hmatched, ← hvalue, ← hearned]

theorem mem_matchesFrom_iff {m : BestMatch} :
    m ∈ field.matchesFrom limits answer 0 field.subPatterns ↔ field.IsMatch limits answer m := by
  unfold matchesFrom
  simp only [List.mem_filterMap, Prod.exists, List.mem_zipIdx_iff_getElem?]
  constructor
  · rintro ⟨sub, index, hsub, hm⟩
    exact ((matchWith?_eq_some hsub).mp hm).2
  · intro hm
    obtain ⟨sub, hsub, -⟩ := hm.earned_eq
    exact ⟨sub, m.subPattern, hsub, (matchWith?_eq_some hsub).mpr ⟨rfl, hm⟩⟩

/-- The best match is one of the matches. -/
theorem mem_of_best? {b : BestMatch} (h : field.best? limits answer = some b) :
    b ∈ field.matchesFrom limits answer 0 field.subPatterns :=
  (mem_of_bestOf ((best?_eq_bestOf limits field answer).symm.trans h)).resolve_left nofun

theorem isMatch_of_best? {b : BestMatch} (h : field.best? limits answer = some b) :
    field.IsMatch limits answer b := mem_matchesFrom_iff.mp (mem_of_best? h)

theorem best?_eq_none (h : ∀ index, (field.evaluate limits index answer).matched = false) :
    field.best? limits answer = none :=
  Option.eq_none_iff_forall_ne_some.mpr fun b hb =>
    absurd ((h b.subPattern).symm.trans (isMatch_of_best? hb).matched) nofun

theorem subPattern_of_matchWith? {sub : SubPattern} {index : Nat} {m : BestMatch}
    (h : field.matchWith? limits answer sub index = some m) : m.subPattern = index := by
  unfold matchWith? at h
  dsimp only at h
  split at h
  · exact Option.some.inj h ▸ rfl
  · exact absurd h nofun

theorem le_of_mem_matchesFrom {index : Nat} {subs : List SubPattern} {m : BestMatch}
    (h : m ∈ field.matchesFrom limits answer index subs) : index ≤ m.subPattern := by
  obtain ⟨⟨sub, i⟩, hentry, hm⟩ := List.mem_filterMap.mp h
  rw [subPattern_of_matchWith? hm]
  exact (List.mem_zipIdx hentry).1

/-- The matches come in the order of the sub-patterns. -/
theorem matchesFrom_increasing (limits : Limits) (field : Field) (answer : String) :
    ∀ (index : Nat) (subs : List SubPattern),
      (field.matchesFrom limits answer index subs).Pairwise (·.subPattern < ·.subPattern)
  | _, [] => List.Pairwise.nil
  | index, sub :: rest => by
      have ih := matchesFrom_increasing limits field answer (index + 1) rest
      rw [matchesFrom_cons]
      cases hm : field.matchWith? limits answer sub index with
      | none => exact ih
      | some m =>
          refine List.pairwise_cons.mpr ⟨fun m' hm' => ?_, ih⟩
          rw [subPattern_of_matchWith? hm]
          exact le_of_mem_matchesFrom hm'

theorem matchesFrom_append (limits : Limits) (field : Field) (answer : String) (index : Nat)
    (subs more : List SubPattern) :
    field.matchesFrom limits answer index (subs ++ more) =
      field.matchesFrom limits answer index subs
        ++ field.matchesFrom limits answer (index + subs.length) more := by
  unfold matchesFrom
  rw [List.zipIdx_append, List.filterMap_append]

/-- A sub-pattern that the answer matches, as a match. -/
theorem exists_isMatch {index : Nat} (h : (field.evaluate limits index answer).matched = true) :
    ∃ m, field.IsMatch limits answer m ∧ m.subPattern = index := by
  cases hsub : field.subPatterns[index]? with
  | none =>
      rw [evaluate_eq_none hsub, MatchResult.matched_none] at h
      exact absurd h nofun
  | some sub =>
      exact ⟨⟨field.points * (field.evaluate limits index answer).value * sub.weightFraction, index,
        (field.evaluate limits index answer).value⟩, ⟨h, rfl, sub, hsub, rfl⟩, rfl⟩

/-- For `ls -la` there are a match that is worth nothing, two that earn the same, and a pattern that
is refused. -/
def listing : Field :=
  { Field.empty with
    points := 4
    subPatterns :=
      [⟨["ls"], 100, "", .default⟩, ⟨["ls.*"], 0, "", .default⟩, ⟨["ls -la"], 50, "", .default⟩,
        ⟨["ls -l."], 50, "", .default⟩, ⟨["ls("], 100, "", .default⟩] }

example : listing.matchesFrom .default "ls -la" 0 listing.subPatterns =
    [⟨0, 1, 1⟩, ⟨2, 2, 1⟩, ⟨2, 3, 1⟩] := by decide +kernel

end Field

end Gapfill
