import Gapfill.Proofs.GradeBounds
import Gapfill.Proofs.Number.Precision

/-!
# The class of a grade and the classes of its parts

A gap is right if it earns all of its points, and a whole response is right if
the quotient of two sums is one. Both sums are rounded, summand by summand. They
keep the order, so a response all of whose gaps are right is right, and one all of
whose gaps are wrong is wrong. But a few points vanish beside very many: then the
response is right although a gap is wrong (`right_beside_wrong_gap`).

The quotient itself does no harm: it is one only if the sums are equal
(`ofFraction_div_eq_right_iff`). So the classes agree where no points can vanish.
What a gap earns is its points times quotients of small numbers; so it misses a
visible share of its points, unless it is right, and earns visibly more than
nothing, unless it is wrong (`Field.grade_partOf`). What it earns is seen in every
finite total; what it misses is seen as long as the points of the gap are.
-/

namespace Gapfill

open Binary64

/-! ## Classes in ranks -/

namespace Classification

theorem ofPoints_signed {a c : Nat} (ha : a ≤ infinityRank) (hc : c ≤ infinityRank) :
    ofPoints (signed false c hc) (signed false a ha) =
      if c = 0 then wrong else if c = a then right else partly := by
  unfold ofPoints
  rw [zero_eq]
  simp [Binary64.le, same, key]

theorem ofFraction_signed {rank : Nat} (h : rank ≤ infinityRank) :
    ofFraction (signed false rank h) =
      if rank = 0 then wrong else if oneRank ≤ rank then right else partly := by
  unfold ofFraction
  rw [zero_eq, one_eq]
  simp [Binary64.le, key]

theorem ofPoints_eq_right_iff {earned most : Binary64} (h : AtMost earned most)
    (hmost : most.Positive) : ofPoints earned most = right ↔ earned = most := by
  obtain ⟨c, a, hc, ha, rfl, rfl, -⟩ := h
  obtain ⟨a', ha', heq, hpos⟩ := hmost
  obtain ⟨-, rfl⟩ := signed.inj heq
  rw [ofPoints_signed]
  constructor
  · intro hright
    split at hright
    · exact absurd hright (by decide)
    · split at hright
      · exact signed_congr ‹_›
      · exact absurd hright (by decide)
  · intro heq
    obtain ⟨-, rfl⟩ := signed.inj heq
    rw [if_neg (Nat.ne_of_gt hpos), if_pos rfl]

theorem ofPoints_eq_wrong_iff {earned most : Binary64} (h : AtMost earned most) :
    ofPoints earned most = wrong ↔ earned = 0 := by
  obtain ⟨c, a, hc, ha, rfl, rfl, -⟩ := h
  rw [ofPoints_signed, zero_eq]
  constructor
  · intro hwrong
    split at hwrong
    · exact signed_congr ‹_›
    · split at hwrong <;> exact absurd hwrong (by decide)
  · intro heq
    obtain ⟨-, rfl⟩ := signed.inj heq
    exact if_pos rfl

variable {s m : Nat} {hs : s ≤ infinityRank} {hm : m ≤ infinityRank}

/-- The quotient of two sums is one only if they are equal. -/
theorem ofFraction_div_eq_right_iff (hle : s ≤ m) (hpos : 0 < m) (hfinite : m < infinityRank) :
    ofFraction (signed false s hs / signed false m hm) = right ↔ s = m := by
  rw [div_unsigned (Nat.lt_of_le_of_lt hle hfinite) hfinite hpos, ofFraction_signed]
  constructor
  · intro hright
    by_contra hne
    have hlt := nearestRank_quotient_lt (Nat.lt_of_le_of_ne hle hne)
    rw [if_neg (Nat.not_le.mpr hlt)] at hright
    split at hright <;> exact absurd hright (by decide)
  · rintro rfl
    have hone := nearestRank_units oneRank_lt (units_pos hpos)
    rw [units_oneRank, Nat.mul_comm] at hone
    rw [hone, if_neg (Nat.ne_of_gt oneRank_pos), if_pos (Nat.le_refl _)]

theorem ofFraction_zero_div {hzero : 0 ≤ infinityRank} (hpos : 0 < m)
    (hfinite : m < infinityRank) :
    ofFraction (signed false 0 hzero / signed false m hm) = wrong := by
  rw [div_unsigned (by decide) hfinite hpos, ofFraction_signed, units_zero,
    Nat.zero_mul, nearestRank_nothing (units_pos hpos), if_pos rfl]

theorem units_infinityRank_le : units infinityRank ≤ 2 ^ 1026 * unitsPerOne := by decide +kernel

/-- What is seen in every finite total is not lost in the quotient. -/
theorem ofFraction_div_ne_wrong (hleast : 2 ^ 1026 ≤ units s) (hle : s ≤ m) (hpos : 0 < m)
    (hfinite : m < infinityRank) :
    ofFraction (signed false s hs / signed false m hm) ≠ wrong := by
  have hone : 1 ≤ nearestRank (units s * unitsPerOne) (units m) := by
    refine le_nearestRank (by decide) (units_pos hpos) ?_
    rw [units_of_lt (by decide), Nat.one_mul]
    calc units m ≤ units infinityRank := units_mono (Nat.le_of_lt hfinite)
      _ ≤ 2 ^ 1026 * unitsPerOne := units_infinityRank_le
      _ ≤ units s * unitsPerOne := Nat.mul_le_mul_right _ hleast
  rw [div_unsigned (Nat.lt_of_le_of_lt hle hfinite) hfinite hpos, ofFraction_signed,
    if_neg (Nat.ne_of_gt hone)]
  split <;> decide

end Classification

/-! ## What a sub-pattern is worth -/

theorem Compiled.length_compileEach {options : Options} {limits : Limits} :
    ∀ {patterns : List (List Char)} {ms : List Matcher},
      compileEach options limits patterns = .ok ms → ms.length = patterns.length
  | [], _, h => by
      obtain rfl := Except.ok.inj h
      rfl
  | pattern :: rest, ms, h => by
      rw [compileEach] at h
      split at h
      · simp at h
      · split at h
        · simp at h
        · rename_i others hrest
          obtain rfl := Except.ok.inj h
          rw [List.length_cons, List.length_cons, length_compileEach hrest]

/-- Where lines may come in any order, each expression has a matcher of its own. -/
theorem Compiled.length_of_anyOrder {sub : SubPattern} {separator sep : String} {limits : Limits}
    {matchers : List Matcher} {options : Options}
    (h : ofStored sub separator limits = .anyOrder matchers sep options) :
    matchers.length = sub.regexes.length := by
  unfold ofStored at h
  split at h
  · rename_i compiled hcompiled
    subst h
    unfold ofSubPattern at hcompiled
    dsimp only at hcompiled
    split at hcompiled
    · cases hms : compileEach sub.options limits _ with
      | error e => rw [hms] at hcompiled; simp [Except.map] at hcompiled
      | ok ms =>
          rw [hms] at hcompiled
          obtain ⟨rfl, -, -⟩ := Compiled.anyOrder.inj (Except.ok.inj hcompiled)
          rw [length_compileEach hms]
          simp
    · cases hm : Matcher.compile _ sub.options limits with
      | error e => rw [hm] at hcompiled; simp [Except.map] at hcompiled
      | ok m => rw [hm] at hcompiled; simp [Except.map] at hcompiled
  · exact absurd h Compiled.noConfusion

/-- What an answer is worth against a stored sub-pattern: everything, nothing, or the score as a
share of its expressions. -/
theorem Compiled.evaluate_quotient (limits : Limits) (answer : List Char) (sub : SubPattern)
    (separator : String) :
    ∃ s n, s ≤ n ∧ 1 ≤ n ∧ n ≤ max sub.regexes.length 1
      ∧ ((ofStored sub separator limits).evaluate limits answer).value
        = Binary64.ofNat s / Binary64.ofNat n := by
  have hnothing : ∃ s n, s ≤ n ∧ 1 ≤ n ∧ n ≤ max sub.regexes.length 1
      ∧ (0 : Binary64) = Binary64.ofNat s / Binary64.ofNat n :=
    ⟨0, 1, by decide, Nat.le_refl 1, Nat.le_max_right _ _, Binary64.share_zero.div_one.symm⟩
  cases hstored : ofStored sub separator limits with
  | unusable e => exact hnothing
  | ordered matcher options =>
      unfold evaluate
      dsimp only
      split
      · exact hnothing
      · dsimp only
        split
        · exact ⟨1, 1, Nat.le_refl 1, Nat.le_refl 1, Nat.le_max_right _ _,
            Binary64.share_one.div_one.symm⟩
        · exact hnothing
  | anyOrder matchers sep options =>
      have hlength := length_of_anyOrder hstored
      unfold evaluate
      dsimp only
      split
      · exact hnothing
      · rename_i normalized _
        have hscore := anyOrderScore_le (matchers.map Matcher.accepts).length
          (answerLines sep options normalized).length
        refine ⟨_, max matchers.length 1, Nat.le_trans (hscore _) ?_, Nat.le_max_right _ _, ?_, rfl⟩
        · rw [List.length_map]
          exact Nat.le_max_left _ _
        · rw [hlength]

theorem Compiled.evaluate_smallQuotient {limits : Limits} {answer : List Char} {sub : SubPattern}
    {separator : String} (hfew : sub.regexes.length ≤ smallDen) :
    SmallQuotient ((ofStored sub separator limits).evaluate limits answer).value := by
  obtain ⟨s, n, hle, hpos, hn, hvalue⟩ := evaluate_quotient limits answer sub separator
  exact ⟨s, n, hle, hpos, Nat.le_trans hn (Nat.max_le.mpr ⟨hfew, by decide⟩), hvalue⟩

theorem SubPattern.weightFraction_smallQuotient {sub : SubPattern} (h : sub.weight ≤ fullWeight) :
    SmallQuotient sub.weightFraction :=
  ⟨sub.weight, fullWeight, h, by decide, by decide, rfl⟩

/-! ## One gap -/

namespace Field

/-- A field whose points are those of a text, and none of whose sub-patterns has more expressions
than can be counted in a small quotient. -/
structure Modest (field : Field) : Prop where
  points : field.points.AtLeastSixteenth
  weights : ∀ sub ∈ field.subPatterns, sub.weight ≤ fullWeight
  expressions : ∀ sub ∈ field.subPatterns, sub.regexes.length ≤ smallDen

/-- A gap earns a part of its points. -/
theorem grade_partOf {field : Field} (h : field.Modest) (hfinite : field.points.isFinite = true)
    (limits : Limits) (answer : Option String) :
    PartOf 1026 (field.grade limits answer).earned field.points := by
  obtain ⟨a, ha, hpoints, hleast⟩ := h.points
  have hwhole : PartOf (1026 + 22 + 22) field.points field.points := by
    have hpow : ∀ i, 52 ≤ i → (i - 51) * binade = sixteenthRank → 2 ^ i ≤ units a := by
      intro i hi hrank
      rw [← units_pow hi, hrank]
      exact units_mono hleast
    exact ⟨a, a, ha, ha, hpoints, hpoints, Nat.le_refl a, Or.inr (hpow _ (by decide) (by decide)),
      Or.inl rfl⟩
  have hnothing : PartOf 1026 0 field.points :=
    ⟨a, 0, ha, Nat.zero_le _, hpoints, zero_eq, Nat.zero_le a, Or.inl rfl, Or.inr (Nat.zero_le _)⟩
  have hmatch : ∀ text m, field.IsMatch limits text m → PartOf 1026 m.earned field.points := by
    intro text m hm
    obtain ⟨sub, hsub, hearned⟩ := hm.earned_eq
    have hmem := List.mem_of_getElem? hsub
    have hvalue : SmallQuotient m.value := by
      rw [hm.value_eq, evaluate_eq hsub]
      exact Compiled.evaluate_smallQuotient (h.expressions sub hmem)
    rw [hearned]
    exact (hwhole.mul (by decide) hfinite hvalue).mul (by decide) hfinite
      (SubPattern.weightFraction_smallQuotient (h.weights sub hmem))
  unfold Field.grade
  dsimp only
  cases hanswer : answer.bind (field.best? limits) with
  | none => exact hnothing
  | some b =>
      obtain ⟨text, -, hb⟩ := Option.bind_eq_some_iff.mp hanswer
      exact hmatch text b (isMatch_of_best? hb)

end Field

/-! ## All gaps -/

theorem Binary64.sum_eq_zero {xs : List Binary64} (hne : xs ≠ []) (h : ∀ x ∈ xs, x = 0) :
    sum xs = 0 := by
  have hstart : signedZero true + 0 = 0 := by decide +kernel
  have hadd : (0 : Binary64) + 0 = 0 := by decide +kernel
  have hfold : ∀ ys : List Binary64, (∀ y ∈ ys, y = 0) → ys.foldl (· + ·) 0 = 0 := by
    intro ys
    induction ys with
    | nil => exact fun _ => rfl
    | cons y ys ih =>
        intro hys
        obtain ⟨hy, hrest⟩ := List.forall_mem_cons.mp hys
        rw [List.foldl_cons, hy, hadd, ih hrest]
  obtain ⟨x, xs, rfl⟩ := List.exists_cons_of_ne_nil hne
  obtain ⟨rfl, hxs⟩ := List.forall_mem_cons.mp h
  rw [sum, List.foldl_cons, hstart, hfold xs hxs]

namespace Grade

theorem clozeOutcomes_classification {limits : Limits} {answers : GapAnswers}
    {fields : List Field} : ∀ outcome ∈ clozeOutcomes limits answers fields,
      outcome.classification = .ofPoints outcome.earned outcome.most := by
  intro outcome houtcome
  obtain ⟨i, hi, rfl⟩ := List.mem_mapIdx.mp houtcome
  rfl

/-- The fields of a cloze question whose points add up to a finite number. -/
structure FiniteTotal (flavor : Flavor) (fields : List Field) : Prop where
  ne_nil : fields ≠ []
  sound : ∀ field ∈ fields, field.Sound flavor
  finite : (Binary64.sum (fields.map (·.points))).isFinite = true

namespace FiniteTotal

variable {flavor : Flavor} {fields : List Field} (h : FiniteTotal flavor fields)

include h

theorem points_finite : ∀ field ∈ fields, field.points.isFinite = true := fun _ hfield =>
  Binary64.isFinite_of_sum h.finite _ (List.mem_map_of_mem hfield)

variable (limits : Limits) (answers : GapAnswers)

theorem positive : ∀ outcome ∈ clozeOutcomes limits answers fields, outcome.most.Positive := by
  intro outcome houtcome
  obtain ⟨i, hi, rfl⟩ := List.mem_mapIdx.mp houtcome
  exact (h.sound _ (List.getElem_mem hi)).positive

/-- No gap earns more than its points, and all that is earned is a number. -/
theorem atMost :
    ∀ outcome ∈ clozeOutcomes limits answers fields, AtMost outcome.earned outcome.most := by
  intro outcome houtcome
  refine (clozeOutcomes_atMost h.sound outcome houtcome).resolve_right ?_
  rintro ⟨-, hinfinite⟩
  obtain ⟨i, hi, rfl⟩ := List.mem_mapIdx.mp houtcome
  have hfinite := h.points_finite _ (List.getElem_mem hi)
  exact Bool.false_ne_true (hinfinite.symm.trans hfinite)

theorem outcomes_ne_nil : clozeOutcomes limits answers fields ≠ [] := by
  simpa [clozeOutcomes] using h.ne_nil

/-- What all gaps earn together is at most what they are worth. -/
theorem earned_atMost :
    AtMost (Binary64.sum ((clozeOutcomes limits answers fields).map (·.earned)))
      (Binary64.sum (fields.map (·.points))) := by
  have hsum := AtMost.sum (h.outcomes_ne_nil limits answers) (h.atMost limits answers)
  rwa [clozeOutcomes_most] at hsum

omit limits answers in
theorem total_positive : Positive (.sum (fields.map (·.points))) := by
  obtain ⟨field, rest, rfl⟩ := List.exists_cons_of_ne_nil h.ne_nil
  exact Binary64.sum_positive (List.forall_mem_map.mpr fun field hfield =>
    (h.sound field hfield).positive)

/-- The fraction is the quotient of two sums. -/
theorem fraction :
    (ofCloze limits fields answers).fraction =
      Binary64.sum ((clozeOutcomes limits answers fields).map (·.earned))
        / Binary64.sum (fields.map (·.points)) := by
  have hsum := h.earned_atMost limits answers
  have hshare := hsum.div_share (hsum.isFinite h.finite) h.total_positive
  unfold ofCloze
  dsimp only
  rw [if_pos (Binary64.positive_iff.mpr h.total_positive), clamp_of_share hshare]

/-- The class of a response is that of this quotient. -/
theorem classification :
    ∃ s m hs hm,
      Binary64.sum ((clozeOutcomes limits answers fields).map (·.earned)) = signed false s hs
        ∧ Binary64.sum (fields.map (·.points)) = signed false m hm
        ∧ s ≤ m ∧ 0 < m ∧ m < infinityRank
        ∧ (ofCloze limits fields answers).classification =
          .ofFraction (signed false s hs / signed false m hm) := by
  have hclass := congrArg Classification.ofFraction (h.fraction limits answers)
  have hfinite := h.finite
  obtain ⟨s, m, hs, hm, hearned, hpoints, hle⟩ := h.earned_atMost limits answers
  obtain ⟨m', hm', heq, hpos⟩ := h.total_positive
  rw [hpoints] at heq hfinite
  obtain ⟨-, rfl⟩ := signed.inj heq
  rw [hearned, hpoints] at hclass
  exact ⟨s, m, hs, hm, hearned, hpoints, hle, hpos, of_decide_eq_true hfinite, hclass⟩

theorem right_iff :
    (ofCloze limits fields answers).classification = .right ↔
      Binary64.sum ((clozeOutcomes limits answers fields).map (·.earned))
        = Binary64.sum (fields.map (·.points)) := by
  obtain ⟨s, m, hs, hm, hearned, hpoints, hle, hpos, hfinite, hclass⟩ :=
    h.classification limits answers
  rw [hclass, Classification.ofFraction_div_eq_right_iff hle hpos hfinite, hearned, hpoints]
  exact ⟨signed_congr, fun heq => (signed.inj heq).2⟩

theorem right_of_all
    (hright : ∀ outcome ∈ clozeOutcomes limits answers fields, outcome.classification = .right) :
    (ofCloze limits fields answers).classification = .right := by
  have hmosts : (clozeOutcomes limits answers fields).map (·.most) = fields.map (·.points) :=
    clozeOutcomes_most
  rw [h.right_iff, ← hmosts]
  refine congrArg Binary64.sum (List.map_congr_left fun outcome houtcome => ?_)
  have hclass := hright outcome houtcome
  rw [clozeOutcomes_classification outcome houtcome] at hclass
  exact (Classification.ofPoints_eq_right_iff (h.atMost limits answers outcome houtcome)
    (h.positive limits answers outcome houtcome)).mp hclass

theorem wrong_of_all
    (hwrong : ∀ outcome ∈ clozeOutcomes limits answers fields, outcome.classification = .wrong) :
    (ofCloze limits fields answers).classification = .wrong := by
  have hnothing : ∀ x ∈ (clozeOutcomes limits answers fields).map (·.earned), x = 0 := by
    refine List.forall_mem_map.mpr fun outcome houtcome => ?_
    have hclass := hwrong outcome houtcome
    rw [clozeOutcomes_classification outcome houtcome] at hclass
    have hatMost := h.atMost limits answers outcome houtcome
    exact (Classification.ofPoints_eq_wrong_iff hatMost).mp hclass
  obtain ⟨s, m, hs, hm, hearned, -, -, hpos, hfinite, hclass⟩ := h.classification limits answers
  rw [sum_eq_zero (mt List.map_eq_nil_iff.mp (h.outcomes_ne_nil limits answers)) hnothing,
    zero_eq] at hearned
  obtain ⟨-, rfl⟩ := signed.inj hearned
  rw [hclass, Classification.ofFraction_zero_div hpos hfinite]

/-! ### What is seen of one gap -/

variable (hmodest : ∀ field ∈ fields, field.Modest)

include hmodest

/-- The total has an exponent, because the points of every gap have one. -/
theorem total_normal {m : Nat} {hm : m ≤ infinityRank}
    (hpoints : Binary64.sum (fields.map (·.points)) = signed false m hm) : binade ≤ m := by
  obtain ⟨field, hfield⟩ := List.exists_mem_of_ne_nil _ h.ne_nil
  obtain ⟨a, ha, hfieldPoints, hleast⟩ := (hmodest field hfield).points
  have hunsigned : ∀ field ∈ fields, field.points.Unsigned := by
    intro field hfield
    obtain ⟨rank, hrank, heq, -⟩ := (h.sound field hfield).positive
    exact ⟨rank, hrank, heq⟩
  have hle := atMost_sum (List.forall_mem_map.mpr hunsigned) _ (List.mem_map_of_mem hfield)
  rw [hfieldPoints, hpoints] at hle
  exact Nat.le_trans (Nat.le_trans (by decide) hleast) hle.rank_le

theorem partOf :
    ∀ outcome ∈ clozeOutcomes limits answers fields, PartOf 1026 outcome.earned outcome.most := by
  intro outcome houtcome
  obtain ⟨i, hi, rfl⟩ := List.mem_mapIdx.mp houtcome
  have hfield := List.getElem_mem hi
  exact Field.grade_partOf (hmodest _ hfield) (h.points_finite _ hfield) limits _

/-- The least that a gap earns is seen in the class. -/
theorem all_wrong (hwrong : (ofCloze limits fields answers).classification = .wrong) :
    ∀ outcome ∈ clozeOutcomes limits answers fields, outcome.classification = .wrong := by
  intro outcome houtcome
  have hatMost := h.atMost limits answers
  obtain ⟨s, m, hs, hm, hsum, -, hle, hpos, hfinite, hclass⟩ := h.classification limits answers
  obtain ⟨a, c, ha, hc, -, hearned, -, hleast, -⟩ :=
    h.partOf limits answers hmodest outcome houtcome
  have hcs := atMost_sum (List.forall_mem_map.mpr fun outcome houtcome =>
    (hatMost outcome houtcome).unsigned.1) _ (List.mem_map_of_mem houtcome)
  rw [hearned, hsum] at hcs
  rw [clozeOutcomes_classification outcome houtcome,
    Classification.ofPoints_eq_wrong_iff (hatMost outcome houtcome), hearned, zero_eq]
  refine signed_congr (hleast.resolve_right fun hvisible => ?_)
  have hvisible := Nat.le_trans hvisible (units_mono hcs.rank_le)
  exact Classification.ofFraction_div_ne_wrong hvisible hle hpos hfinite (hclass ▸ hwrong)

/-- What a gap misses is seen in the class, if its points are seen in the total. -/
theorem all_right
    (hbalanced : ∀ field ∈ fields,
      fields.length * (Binary64.sum (fields.map (·.points))).magnitude
        < 2 ^ 29 * field.points.magnitude)
    (hright : (ofCloze limits fields answers).classification = .right) :
    ∀ outcome ∈ clozeOutcomes limits answers fields, outcome.classification = .right := by
  intro outcome houtcome
  have hatMost := h.atMost limits answers
  obtain ⟨s, m, hs, hm, -, hpoints, -, hpos, hfinite, -⟩ := h.classification limits answers
  have hmosts : (clozeOutcomes limits answers fields).map (·.most) = fields.map (·.points) :=
    clozeOutcomes_most
  have hlength : (clozeOutcomes limits answers fields).length = fields.length := by
    simp [clozeOutcomes]
  have hmissing := missing_le_of_equal_sums hatMost hfinite
    (((h.right_iff limits answers).mp hright).trans hpoints) (hmosts ▸ hpoints) outcome houtcome
  obtain ⟨field, hfield, hmost⟩ := List.mem_map.mp (hmosts ▸ List.mem_map_of_mem houtcome)
  have hvisible := hbalanced field hfield
  have hstep := Nat.mul_le_mul_left fields.length
    (step_le_units (h.total_normal hmodest hpoints))
  obtain ⟨a, c, ha, hc, ha', hc', -, -, hpart⟩ := h.partOf limits answers hmodest outcome houtcome
  rw [hmost, hpoints, ha'] at hvisible
  rw [ha', hc', hlength] at hmissing
  rw [clozeOutcomes_classification outcome houtcome, Classification.ofPoints_eq_right_iff
    (hatMost outcome houtcome) (h.positive limits answers outcome houtcome), ha', hc']
  refine signed_congr (hpart.resolve_right fun hless => ?_)
  rw [Nat.mul_left_comm] at hstep
  simp only [magnitude] at hvisible hmissing
  omega

end FiniteTotal

end Grade

/-! ## Built questions -/

/-- Without a key a field is worth one point, and no text for points denotes less than a tenth. -/
theorem Field.parse_points {flavor : Flavor} {text : String} {field : Field}
    (h : Field.parse flavor text = .ok field) : field.points.AtLeastSixteenth := by
  obtain ⟨source, fuel, start, rest, keysAt, keys, -, rfl, -⟩ := parse_phases h
  refine readKeys_preserves (P := fun field => field.points.AtLeastSixteenth) ?_
    ⟨oneRank, _, one_eq, by decide⟩
  intro field field' key value hpoints _ hset
  unfold Field.setKey at hset
  cases key <;> dsimp only at hset
  case separator | feedback | comment => exact Except.ok.inj hset ▸ hpoints
  case points =>
      split at hset
      · rename_i points hread
        exact Except.ok.inj hset ▸ readPoints_atLeastSixteenth hread
      · simp at hset
  case size =>
      split at hset
      · exact Except.ok.inj hset ▸ hpoints
      · simp at hset

theorem AuthoredQuestion.buildField_points {id : String} {flavor : Flavor} {index : Nat}
    {answer : AuthoredAnswer} {field : Field} (h : buildField id flavor index answer = .ok field) :
    field.points.AtLeastSixteenth := by
  unfold buildField at h
  split at h
  · simp at h
  · rename_i parsed hparse
    have hpoints := Field.parse_points hparse
    cases flavor with
    | cloze => exact Except.ok.inj h ▸ hpoints
    | single =>
        dsimp only at h
        split at h
        · exact Except.ok.inj h ▸ hpoints
        · simp at h

namespace Question

/-- No sub-pattern has more expressions than can be counted in a small quotient, which are more
than four million. -/
def FewExpressions (question : Question) : Prop :=
  ∀ field ∈ question.fields, ∀ sub ∈ field.subPatterns, sub.regexes.length ≤ smallDen

/-- No gap is worth so little that its points vanish beside the most that can be earned: of `n`
gaps, each is worth more than `n` parts in `2 ^ 29` of it. -/
def Balanced (question : Question) : Prop :=
  ∀ field ∈ question.fields,
    question.fields.length * question.maxPoints.magnitude < 2 ^ 29 * field.points.magnitude

instance (question : Question) : Decidable question.FewExpressions :=
  inferInstanceAs (Decidable (∀ field ∈ question.fields, ∀ sub ∈ field.subPatterns, _))

instance (question : Question) : Decidable question.Balanced :=
  inferInstanceAs (Decidable (∀ field ∈ question.fields, _))

/-- A cloze response is right exactly if the sum of what it earns is the most that can be earned,
as these sums are rounded. So it is right if all gaps are, and wrong if all gaps are. It is wrong
only then, and in a balanced question it is right only then. -/
theorem classification_agrees {authored : AuthoredQuestion} {question : Question}
    (hbuild : authored.build = .ok question) (hcloze : question.flavor = .cloze)
    (hfinite : question.maxPoints.isFinite = true) (limits : Limits) (answers : GapAnswers) :
    let grade := question.grade limits (.cloze answers)
    (grade.classification = .right ↔
        Binary64.sum (grade.outcomes.map (·.earned)) = question.maxPoints)
      ∧ ((∀ outcome ∈ grade.outcomes, outcome.classification = .right) →
        grade.classification = .right)
      ∧ ((∀ outcome ∈ grade.outcomes, outcome.classification = .wrong) →
        grade.classification = .wrong)
      ∧ (question.FewExpressions →
        (grade.classification = .wrong ↔
            ∀ outcome ∈ grade.outcomes, outcome.classification = .wrong)
          ∧ (question.Balanced →
            (grade.classification = .right ↔
              ∀ outcome ∈ grade.outcomes, outcome.classification = .right))) := by
  intro grade
  obtain ⟨hfitted, hne⟩ := AuthoredQuestion.build_fitted hbuild
  obtain ⟨-, -, hfields⟩ := AuthoredQuestion.valid_of_build hbuild
  have hpoints := (AuthoredQuestion.forall_of_buildFields
    AuthoredQuestion.buildField_points hfields).1
  have hmost : question.maxPoints = .sum (question.fields.map (·.points)) := by
    unfold maxPoints
    rw [hcloze]
  have htotal : Grade.FiniteTotal question.flavor question.fields :=
    ⟨hne hcloze, fun field hfield => (hfitted field hfield).toSound, hmost ▸ hfinite⟩
  rw [hmost]
  refine ⟨htotal.right_iff limits answers, htotal.right_of_all limits answers,
    htotal.wrong_of_all limits answers, fun hfew => ?_⟩
  have hmodest : ∀ field ∈ question.fields, field.Modest := fun field hfield =>
    ⟨hpoints field hfield, (hfitted field hfield).weights, hfew field hfield⟩
  refine ⟨⟨htotal.all_wrong limits answers hmodest, htotal.wrong_of_all limits answers⟩,
    fun hbalanced => ⟨htotal.all_right limits answers hmodest ?_,
      htotal.right_of_all limits answers⟩⟩
  exact hmost ▸ hbalanced

/-- In a question with two gaps of one point each, the classes agree. -/
theorem classification_agrees_two_gaps :
    twoGaps.build = .ok twoGapsBuilt ∧ twoGapsBuilt.FewExpressions ∧ twoGapsBuilt.Balanced
      ∧ ((twoGapsBuilt.grade .default (.cloze [(1, "a"), (2, "x")])).classification = .right ↔
        ∀ outcome ∈ (twoGapsBuilt.grade .default (.cloze [(1, "a"), (2, "x")])).outcomes,
          outcome.classification = .right) := by
  have hfew : twoGapsBuilt.FewExpressions := by decide +kernel
  have hbalanced : twoGapsBuilt.Balanced := by decide +kernel
  have hagrees := classification_agrees twoGaps_build rfl (by decide +kernel) .default
    [(1, "a"), (2, "x")]
  exact ⟨twoGaps_build, hfew, hbalanced, (hagrees.2.2.2 hfew).2 hbalanced⟩

/-- A gap for very many points, and one for a single point. -/
def vanishingGap : AuthoredQuestion :=
  ⟨"q", "q", .cloze, "[[1]] [[2]]",
    [⟨"[[a]]//\npoints=100000000000000000000", 1⟩, ⟨"[[b]]//", 1⟩]⟩

def vanishingGapBuilt : Question :=
  let field (gap : Nat) (body : String) (points : Binary64) : Field :=
    { Field.empty with gap := some gap, points, subPatterns := [⟨[body], 100, "", .default⟩] }
  ⟨"q", "q", .cloze, "[[1]] [[2]]",
    [field 1 "a" (.ofDecimal false 100000000000000000000 0), field 2 "b" 1]⟩

/-- The point of the second gap is lost in both sums. -/
theorem right_beside_wrong_gap :
    let grade := vanishingGapBuilt.grade .default (.cloze [(1, "a"), (2, "x")])
    vanishingGap.build = .ok vanishingGapBuilt ∧ vanishingGapBuilt.maxPoints.isFinite = true
      ∧ grade.fraction = 1 ∧ grade.classification = .right
      ∧ grade.outcomes.map (·.classification) = [.right, .wrong] :=
  ⟨AuthoredQuestion.build_of_toOption (by decide +kernel), by decide +kernel, by decide +kernel,
    by decide +kernel, by decide +kernel⟩

end Question

end Gapfill
