import Gapfill.Proofs.Grading
import Gapfill.Proofs.Number.Order
import Gapfill.Proofs.Number.Precision

/-!
# The best match of a field

A field keeps the better of two of its matches, all the way through its
sub-patterns. If all of them earn numbers, it ends with the first of those that
earn the most: the matches before it earn less, and the ones behind it no more
(`FirstBest`).

What a match earns is a number if the points are finite and positive, so the
field finds the first best of its sub-patterns, also where some are worth nothing
and where some earn the same. Sub-patterns behind the others come last in the
pass; they are reported only if they earn more (`best?_firstBest`).
-/

namespace Gapfill

/-! ## The pass over a list of matches -/

/-- Of these matches, the first of those that earn the most. -/
def FirstBest (ms : List BestMatch) (b : BestMatch) : Prop :=
  ∃ before after, ms = before ++ b :: after
    ∧ (∀ m ∈ before, m.earned.lt b.earned = true) ∧ ∀ m ∈ after, m.earned.le b.earned = true

namespace FirstBest

variable {ms : List BestMatch} {a b m : BestMatch}

theorem mem (h : FirstBest ms b) : b ∈ ms := by
  obtain ⟨before, after, rfl, -, -⟩ := h
  simp

theorem le_of_mem (h : FirstBest ms b) (hb : b.earned ≠ .nan) (hm : m ∈ ms) :
    m.earned.le b.earned = true := by
  obtain ⟨before, after, rfl, hbefore, hafter⟩ := h
  rcases List.mem_append.mp hm with hm | hm
  · exact Binary64.le_of_lt (hbefore m hm)
  · rcases List.mem_cons.mp hm with rfl | hm
    · exact Binary64.le_refl hb
    · exact hafter m hm

/-- The first of the matches is the best one, or it earns less. -/
theorem eq_or_lt (h : FirstBest (a :: ms) b) : b = a ∨ a.earned.lt b.earned = true := by
  obtain ⟨before, after, heq, hbefore, -⟩ := h
  cases before with
  | nil => exact Or.inl (List.cons.inj heq).1.symm
  | cons c before =>
      obtain ⟨rfl, -⟩ := List.cons.inj heq
      exact Or.inr (hbefore a List.mem_cons_self)

theorem cons_of_lt (h : FirstBest ms b) (hlt : m.earned.lt b.earned = true) :
    FirstBest (m :: ms) b := by
  obtain ⟨before, after, rfl, hbefore, hafter⟩ := h
  exact ⟨m :: before, after, rfl, List.forall_mem_cons.mpr ⟨hlt, hbefore⟩, hafter⟩

/-- A match that earns no more than one before it does not count. -/
theorem insert_of_le (h : FirstBest (a :: ms) b) (hle : m.earned.le a.earned = true) :
    FirstBest (a :: m :: ms) b := by
  obtain ⟨before, after, heq, hbefore, hafter⟩ := h
  cases before with
  | nil =>
      obtain ⟨rfl, rfl⟩ := List.cons.inj heq
      exact ⟨[], m :: ms, rfl, by simp, List.forall_mem_cons.mpr ⟨hle, hafter⟩⟩
  | cons c before =>
      obtain ⟨rfl, rfl⟩ := List.cons.inj heq
      obtain ⟨ha, hbefore⟩ := List.forall_mem_cons.mp hbefore
      refine ⟨a :: m :: before, after, rfl, ?_, hafter⟩
      exact List.forall_mem_cons.mpr
        ⟨ha, List.forall_mem_cons.mpr ⟨Binary64.lt_of_le_of_lt hle ha, hbefore⟩⟩

end FirstBest

/-- From a match on, the pass ends with the first best of them all. -/
theorem bestOf_some : ∀ {ms : List BestMatch} {a : BestMatch},
    (∀ m ∈ a :: ms, m.earned ≠ .nan) → ∃ b, bestOf (some a) ms = some b ∧ FirstBest (a :: ms) b
  | [], a, _ => ⟨a, rfl, [], [], rfl, by simp, by simp⟩
  | m :: ms, a, h => by
      obtain ⟨ha, hms⟩ := List.forall_mem_cons.mp h
      obtain ⟨hm, hrest⟩ := List.forall_mem_cons.mp hms
      have hstep : bestOf (some a) (m :: ms) =
          bestOf (some (if a.earned.lt m.earned then m else a)) ms := rfl
      rw [hstep]
      split
      · rename_i hlt
        obtain ⟨b, hbest, hfirst⟩ := bestOf_some hms
        refine ⟨b, hbest, hfirst.cons_of_lt ?_⟩
        rcases hfirst.eq_or_lt with rfl | hless
        · exact hlt
        · exact Binary64.lt_of_lt_of_le hlt (Binary64.le_of_lt hless)
      · rename_i hlt
        obtain ⟨b, hbest, hfirst⟩ := bestOf_some (List.forall_mem_cons.mpr ⟨ha, hrest⟩)
        exact ⟨b, hbest,
          hfirst.insert_of_le (Binary64.le_of_not_lt ha hm (Bool.eq_false_iff.mpr hlt))⟩

theorem bestOf_none {ms : List BestMatch} (h : ∀ m ∈ ms, m.earned ≠ .nan) :
    (ms = [] ∧ bestOf none ms = none) ∨ ∃ b, bestOf none ms = some b ∧ FirstBest ms b := by
  cases ms with
  | nil => exact Or.inl ⟨rfl, rfl⟩
  | cons m ms => exact Or.inr (bestOf_some h)

/-! ## What matches earn -/

/-- A weight that is a byte is a number, which may be more than the whole. -/
theorem SubPattern.weightFraction_unsigned {sub : SubPattern} (h : sub.weight < 2 ^ 8) :
    sub.weightFraction.Unsigned ∧ sub.weightFraction.isFinite = true :=
  Binary64.ofNat_div_unsigned (Nat.lt_trans h (by decide)) (show 0 < fullWeight by decide)
    (by decide)

namespace Field

variable {limits : Limits} {field : Field} {answer : String}

/-- What a match earns is a number without sign. -/
theorem IsMatch.earned_unsigned {m : BestMatch} (hm : field.IsMatch limits answer m)
    (hpositive : Binary64.lt 0 field.points = true) (hfinite : field.points.isFinite = true)
    (hweights : ∀ sub ∈ field.subPatterns, sub.weight < 2 ^ 8) : m.earned.Unsigned := by
  obtain ⟨sub, hsub, hearned⟩ := hm.earned_eq
  have hpart := ((Binary64.positive_iff.mp hpositive).atMost_self.mul_share
    hm.value_share).resolve_right fun hnan => Bool.false_ne_true (hnan.2.symm.trans hfinite)
  obtain ⟨hweight, hweightFinite⟩ :=
    SubPattern.weightFraction_unsigned (hweights sub (List.mem_of_getElem? hsub))
  rw [hearned]
  exact hpart.unsigned.1.mul hweight (hpart.isFinite hfinite) hweightFinite

/-! ## The first best of the sub-patterns -/

/-- A match that no other one exceeds, and that exceeds all those before it. -/
structure IsFirstBest (limits : Limits) (field : Field) (answer : String) (b : BestMatch) : Prop
    extends field.IsMatch limits answer b where
  most : ∀ m, field.IsMatch limits answer m → m.earned.le b.earned = true
  first : ∀ m, field.IsMatch limits answer m → m.subPattern < b.subPattern →
    m.earned.lt b.earned = true

theorem isFirstBest_of_firstBest {b : BestMatch} (hb : b.earned ≠ .nan)
    (h : FirstBest (field.matchesFrom limits answer 0 field.subPatterns) b) :
    field.IsFirstBest limits answer b where
  toIsMatch := mem_matchesFrom_iff.mp h.mem
  most m hm := h.le_of_mem hb (mem_matchesFrom_iff.mpr hm)
  first m hm hlt := by
    have hmem := mem_matchesFrom_iff.mpr hm
    have hincreasing := field.matchesFrom_increasing limits answer 0 field.subPatterns
    obtain ⟨before, after, heq, hbefore, -⟩ := h
    rw [heq] at hmem hincreasing
    rcases List.mem_append.mp hmem with hmem | hmem
    · exact hbefore m hmem
    · -- a match with a smaller index does not come later
      rcases List.mem_cons.mp hmem with rfl | hmem
      · exact absurd hlt (Nat.lt_irrefl _)
      · have hafter := (List.pairwise_append.mp hincreasing).2.1
        exact absurd hlt (Nat.lt_asymm ((List.pairwise_cons.mp hafter).1 m hmem))

/-- Where all matches earn numbers, the field finds the first best of them, if there is one. -/
theorem best?_cases (hnumbers : ∀ m, field.IsMatch limits answer m → m.earned ≠ .nan) :
    (field.best? limits answer = none ∧ ∀ m, ¬ field.IsMatch limits answer m)
      ∨ ∃ b, field.best? limits answer = some b ∧ field.IsFirstBest limits answer b := by
  rw [best?_eq_bestOf]
  rcases bestOf_none fun m hm => hnumbers m (mem_matchesFrom_iff.mp hm) with
    ⟨hnil, hnone⟩ | ⟨b, hbest, hfirst⟩
  · refine Or.inl ⟨hnone, fun m hm => ?_⟩
    have hmem := mem_matchesFrom_iff.mpr hm
    rw [hnil] at hmem
    exact absurd hmem List.not_mem_nil
  · have hb := hnumbers b (mem_matchesFrom_iff.mp hfirst.mem)
    exact Or.inr ⟨b, hbest, isFirstBest_of_firstBest hb hfirst⟩

/-! ## More sub-patterns -/

/-- The field with more sub-patterns behind its own. -/
def append (field : Field) (more : List SubPattern) : Field :=
  { field with subPatterns := field.subPatterns ++ more }

theorem matchesFrom_append_subPatterns (field : Field) (more : List SubPattern) :
    (field.append more).matchesFrom limits answer 0 (field.append more).subPatterns =
      field.matchesFrom limits answer 0 field.subPatterns
        ++ field.matchesFrom limits answer field.subPatterns.length more := by
  have happend := field.matchesFrom_append limits answer 0 field.subPatterns more
  rw [Nat.zero_add] at happend
  exact happend

theorem best?_append (field : Field) (more : List SubPattern) :
    (field.append more).best? limits answer =
      bestOf (field.best? limits answer)
        (field.matchesFrom limits answer field.subPatterns.length more) := by
  rw [best?_eq_bestOf, best?_eq_bestOf, matchesFrom_append_subPatterns, bestOf, List.foldl_append]
  rfl

/-- The best match stays, unless one of the sub-patterns behind earns more. -/
theorem best?_append_of_some {more : List SubPattern} {b : BestMatch}
    (hnumbers : ∀ m, (field.append more).IsMatch limits answer m → m.earned ≠ .nan)
    (hb : field.best? limits answer = some b) :
    (field.append more).best? limits answer = some b
      ∨ ∃ b', (field.append more).best? limits answer = some b'
        ∧ b.earned.lt b'.earned = true := by
  have hmatch : ∀ m ∈ b :: field.matchesFrom limits answer field.subPatterns.length more,
      m.earned ≠ .nan := by
    intro m hm
    refine hnumbers m (mem_matchesFrom_iff.mp ?_)
    rw [matchesFrom_append_subPatterns]
    rcases List.mem_cons.mp hm with rfl | hm
    · exact List.mem_append_left _ (mem_of_best? hb)
    · exact List.mem_append_right _ hm
  obtain ⟨b', hbest, hfirst⟩ := bestOf_some hmatch
  rw [best?_append, hb, hbest]
  rcases hfirst.eq_or_lt with rfl | hlt
  · exact Or.inl rfl
  · exact Or.inr ⟨b', rfl, hlt⟩

theorem grade_earned_of_none {text : String} (h : field.best? limits text = none) :
    (field.grade limits (some text)).earned = 0 := by
  unfold grade
  rw [Option.bind_some, h]

theorem grade_earned_of_some {text : String} {b : BestMatch}
    (h : field.best? limits text = some b) :
    (field.grade limits (some text)).earned = b.earned := by
  unfold grade
  rw [Option.bind_some, h]

/-- With more sub-patterns, an answer earns no less, and the best match is another one only if that
earns more. -/
structure NoWorseThan (limits : Limits) (longer field : Field) : Prop where
  earned (answer : Option String) :
    (field.grade limits answer).earned.le (longer.grade limits answer).earned = true
  best (answer : String) : ∀ b, field.best? limits answer = some b →
    longer.best? limits answer = some b
      ∨ ∃ b', longer.best? limits answer = some b' ∧ b.earned.lt b'.earned = true

theorem append_noWorseThan {more : List SubPattern}
    (h : ∀ answer m, (field.append more).IsMatch limits answer m → m.earned.Unsigned) :
    NoWorseThan limits (field.append more) field := by
  have hnumbers := fun answer m hm => (h answer m hm).ne_nan
  refine ⟨fun answer => ?_, fun answer b hb => best?_append_of_some (hnumbers answer) hb⟩
  cases answer with
  | none =>
      change Binary64.le 0 0 = true
      decide +kernel
  | some text =>
      have hlonger := best?_cases (hnumbers text)
      cases hbest : field.best? limits text with
      | none =>
          rw [grade_earned_of_none hbest]
          rcases hlonger with ⟨hnone, -⟩ | ⟨b', hb', hfirst⟩
          · rw [grade_earned_of_none hnone]
            decide +kernel
          · rw [grade_earned_of_some hb']
            exact (h text b' hfirst.toIsMatch).zero_le
      | some b =>
          rw [grade_earned_of_some hbest]
          rcases best?_append_of_some (hnumbers text) hbest with hsame | ⟨b', hb', hlt⟩
          · rw [grade_earned_of_some hsame]
            exact Binary64.le_refl
              (hnumbers text b (isMatch_of_best? hsame))
          · rw [grade_earned_of_some hb']
            exact Binary64.le_of_lt hlt

/-- The best match is the first best of the sub-patterns of a field with finite and positive points;
a weight is a byte. More sub-patterns behind them change it only for a better one. -/
theorem best?_firstBest {field : Field} (hpositive : Binary64.lt 0 field.points = true)
    (hfinite : field.points.isFinite = true)
    (hweights : ∀ sub ∈ field.subPatterns, sub.weight < 2 ^ 8) (limits : Limits) :
    (∀ answer,
      (field.best? limits answer = none ↔
          ∀ index, (field.evaluate limits index answer).matched = false)
        ∧ ∀ b, field.best? limits answer = some b → field.IsFirstBest limits answer b)
      ∧ ∀ more : List SubPattern, (∀ sub ∈ more, sub.weight < 2 ^ 8) →
        NoWorseThan limits (field.append more) field := by
  have hcases := fun answer => @best?_cases limits field answer fun m hm =>
    (hm.earned_unsigned hpositive hfinite hweights).ne_nan
  refine ⟨fun answer => ⟨⟨fun hnone index => ?_, fun hnone => ?_⟩, fun b hb => ?_⟩, ?_⟩
  · refine Bool.eq_false_iff.mpr fun hmatched => ?_
    obtain ⟨m, hm, -⟩ := exists_isMatch hmatched
    rcases hcases answer with ⟨-, hno⟩ | ⟨b, hb, -⟩
    · exact hno m hm
    · exact absurd (hnone.symm.trans hb) nofun
  · rcases hcases answer with ⟨hbest, -⟩ | ⟨b, -, hfirst⟩
    · exact hbest
    · exact absurd (hfirst.matched.symm.trans (hnone b.subPattern)) nofun
  · rcases hcases answer with ⟨hnone, -⟩ | ⟨b', hb', hfirst⟩
    · exact absurd (hnone.symm.trans hb) nofun
    · exact Option.some.inj (hb'.symm.trans hb) ▸ hfirst
  · refine fun more hmore => append_noWorseThan fun answer m hm => ?_
    refine hm.earned_unsigned hpositive hfinite fun sub hsub => ?_
    rcases List.mem_append.mp hsub with hsub | hsub
    · exact hweights sub hsub
    · exact hmore sub hsub

theorem best?_firstBest_listing :
    listing.best? .default "ls -la" = some ⟨2, 2, 1⟩
      ∧ listing.IsFirstBest .default "ls -la" ⟨2, 2, 1⟩
      ∧ (listing.append [⟨["ls -l?a"], 75, "", .default⟩]).best? .default "ls -la" = some ⟨3, 5, 1⟩
      ∧ NoWorseThan .default (listing.append [⟨["ls -l?a"], 75, "", .default⟩]) listing := by
  have hbest : listing.best? .default "ls -la" = some ⟨2, 2, 1⟩ := by decide +kernel
  obtain ⟨hfirst, hmore⟩ := @best?_firstBest listing (by decide +kernel)
    (by decide +kernel) (by decide) .default
  exact ⟨hbest, (hfirst "ls -la").2 _ hbest, by decide +kernel, hmore _ (by decide)⟩

end Field

end Gapfill
