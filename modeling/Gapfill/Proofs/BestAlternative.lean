import Gapfill.Proofs.BestMatch

/-!
# The best alternative

A whole answer is worth the greatest of what its alternatives are worth, and an
alternative the greatest of what its sub-patterns are worth, by the points that
they earn: these are divided by the points of the alternative and multiplied by
its share of the mark. An alternative has one point, so dividing changes nothing,
and multiplying by a share keeps the order, rounded too. So the two maxima are one,
over all the sub-patterns that match (`ofSingle_isMaximum`).

A product of shares is one only if each of them is, because rounding does not lift
a product above its factors (`Share.eq_one_of_mul`). That tells which answers are
right. And a maximum does not depend on the order of the alternatives.
-/

namespace Gapfill

open Binary64 (IsMaximum Share)

/-! ## Shares of the mark -/

namespace AuthoredQuestion

open Binary64 in
/-- Multiplying by a share of the mark keeps the order. -/
theorem mul_isShare_mono {x y fraction : Binary64} (hx : Share x) (hy : Share y)
    (h : x.le y = true) (hf : isShare fraction = true) :
    (x * fraction).le (y * fraction) = true := by
  obtain ⟨a, ha, rfl, haone⟩ := hx
  obtain ⟨b, hb, rfl, hbone⟩ := hy
  obtain ⟨s, rank, hrank, rfl, hone, hzero⟩ := isShare_iff.mp hf
  have hrank' := Nat.lt_of_le_of_lt hone oneRank_lt
  rw [mul_signed_finite s (Nat.lt_of_le_of_lt haone oneRank_lt) hrank',
    mul_signed_finite s (Nat.lt_of_le_of_lt hbone oneRank_lt) hrank']
  simp only [Binary64.le, key, Bool.false_eq_true, if_false, decide_eq_true_eq] at h ⊢
  cases s with
  | true =>
      -- negative zero, and so are both products
      rw [hzero rfl, units_zero, Nat.mul_zero, Nat.mul_zero]
      exact decide_eq_true (Int.le_refl _)
  | false =>
      have hab := units_mono (Int.ofNat_le.mp h)
      exact decide_eq_true (Int.ofNat_le.mpr
        (nearestRank_mono (Nat.mul_le_mul_right (units rank) hab)))

open Binary64 in
theorem eq_one_of_isShare {fraction : Binary64} (hf : isShare fraction = true)
    (h : Binary64.le 1 fraction = true) : fraction = 1 := by
  obtain ⟨s, rank, hrank, rfl, hone, hzero⟩ := isShare_iff.mp hf
  cases s with
  | true =>
      obtain rfl := hzero rfl
      rw [one_eq] at h
      simp only [Binary64.le, key, decide_eq_true_eq] at h
      exact absurd h (by decide)
  | false => exact Share.eq_one_of_le ⟨rank, hrank, rfl, hone⟩ h

end AuthoredQuestion

namespace Classification

theorem ofFraction_eq_right_iff {x : Binary64} : ofFraction x = right ↔ Binary64.le 1 x = true := by
  have hone : Binary64.le 1 0 = false := by decide +kernel
  unfold ofFraction
  by_cases hzero : x.le 0 = true
  · rw [if_pos hzero]
    refine ⟨nofun, fun h => ?_⟩
    exact absurd (hone.symm.trans (Binary64.le_trans h hzero)) nofun
  · rw [if_neg hzero]
    split <;> simp [*]

/-- Numbers that are equal have the same class. -/
theorem ofFraction_congr {x y : Binary64} (h : x.same y = true) : ofFraction x = ofFraction y := by
  have hxy := Binary64.le_of_same h
  have hyx := Binary64.le_of_same (Binary64.same_symm h)
  have hzero : x.le 0 = y.le 0 :=
    Bool.eq_iff_iff.mpr ⟨Binary64.le_trans hyx, Binary64.le_trans hxy⟩
  have hone : Binary64.le 1 x = Binary64.le 1 y :=
    Bool.eq_iff_iff.mpr ⟨fun h => Binary64.le_trans h hxy, fun h => Binary64.le_trans h hyx⟩
  unfold ofFraction
  rw [hzero, hone]

end Classification

theorem SubPattern.weightFraction_eq_one_iff {sub : SubPattern} (h : sub.weight ≤ fullWeight) :
    sub.weightFraction = 1 ↔ sub.weight = fullWeight :=
  Binary64.ofNat_div_eq_one_iff h (by decide) (by decide)

/-! ## One alternative -/

namespace Field

/-- What the answer is worth by one of the sub-patterns that it matches, as a share of the mark. -/
def IsWorth (limits : Limits) (field : Field) (answer : String) (worth : Binary64) : Prop :=
  ∃ index sub, field.subPatterns[index]? = some sub
    ∧ (field.evaluate limits index answer).matched = true
    ∧ worth = (field.evaluate limits index answer).value * sub.weightFraction * field.fraction

variable {limits : Limits} {field : Field} {answer : String}

/-- Of one point, a match earns its value times its weight. -/
theorem IsMatch.earned_of_one {m : BestMatch} (hm : field.IsMatch limits answer m)
    (hone : field.points = 1) :
    ∃ sub, field.subPatterns[m.subPattern]? = some sub
      ∧ m.earned = m.value * sub.weightFraction := by
  obtain ⟨sub, hsub, hearned⟩ := hm.earned_eq
  rw [hone, hm.value_share.one_mul] at hearned
  exact ⟨sub, hsub, hearned⟩

theorem isWorth_iff (hone : field.points = 1) {worth : Binary64} :
    field.IsWorth limits answer worth ↔
      ∃ m, field.IsMatch limits answer m ∧ worth = m.earned * field.fraction := by
  constructor
  · rintro ⟨index, sub, hsub, hmatched, rfl⟩
    obtain ⟨m, hm, rfl⟩ := exists_isMatch hmatched
    obtain ⟨sub', hsub', hearned⟩ := hm.earned_of_one hone
    obtain rfl := Option.some.inj (hsub.symm.trans hsub')
    exact ⟨m, hm, by rw [hearned, hm.value_eq]⟩
  · rintro ⟨m, hm, rfl⟩
    obtain ⟨sub, hsub, hearned⟩ := hm.earned_of_one hone
    exact ⟨m.subPattern, sub, hsub, hm.matched, by rw [hearned, hm.value_eq]⟩

section

variable (h : AuthoredQuestion.Fitted .single field)

include h

theorem earned_share {m : BestMatch} (hm : field.IsMatch limits answer m) : Share m.earned :=
  hm.earned_share (h.single rfl) h.weights

theorem zero_le_of_isWorth {worth : Binary64} (hworth : field.IsWorth limits answer worth) :
    Binary64.le 0 worth = true := by
  obtain ⟨m, hm, rfl⟩ := (isWorth_iff (h.single rfl)).mp hworth
  have hshare := (AuthoredQuestion.isShare_mul (earned_share h hm) (h.share rfl)).1
  exact (Bool.and_eq_true_iff.mp hshare).1

/-- An alternative is worth the most that one of its sub-patterns makes of it. -/
theorem gradeAlternative_isMaximum :
    IsMaximum (field.IsWorth limits answer) (field.gradeAlternative limits answer).earned := by
  have hone := h.single rfl
  have hshare := h.share rfl
  unfold gradeAlternative
  rcases best?_cases fun m hm => (earned_share h hm).ne_nan with ⟨hnone, hno⟩ | ⟨b, hb, hfirst⟩
  · rw [hnone]
    have hnothing : ∀ worth, ¬ field.IsWorth limits answer worth := fun worth hworth => by
      obtain ⟨m, hm, -⟩ := (isWorth_iff hone).mp hworth
      exact hno m hm
    exact ⟨fun worth hworth => absurd hworth (hnothing worth),
      Or.inr ⟨hnothing, Binary64.same_refl Binary64.share_zero.ne_nan⟩⟩
  · have hbshare := earned_share h hfirst.toIsMatch
    rw [hb]
    dsimp only
    rw [if_pos (Binary64.positive_iff.mpr h.positive), hone, hbshare.div_one]
    refine ⟨fun worth hworth => ?_, Or.inl ⟨_, (isWorth_iff hone).mpr
      ⟨b, hfirst.toIsMatch, rfl⟩, Binary64.same_refl ?_⟩⟩
    · obtain ⟨m, hm, rfl⟩ := (isWorth_iff hone).mp hworth
      exact AuthoredQuestion.mul_isShare_mono (earned_share h hm) hbshare (hfirst.most m hm) hshare
    · have hpart := (AuthoredQuestion.isShare_mul hbshare hshare).1
      exact (Binary64.ne_nan_of_le (Bool.and_eq_true_iff.mp hpart).1).2

/-- The whole mark is for alternatives that are worth it, with a sub-pattern of full weight that
matches without loss. -/
theorem isWorth_one_iff :
    (∃ worth, field.IsWorth limits answer worth ∧ Binary64.le 1 worth = true) ↔
      field.fraction = 1 ∧ ∃ index sub, field.subPatterns[index]? = some sub
        ∧ sub.weight = fullWeight ∧ (field.evaluate limits index answer).value = 1 := by
  constructor
  · rintro ⟨worth, hworth, hle⟩
    obtain ⟨m, hm, rfl⟩ := (isWorth_iff (h.single rfl)).mp hworth
    have hearnedShare := earned_share h hm
    have hpart := (AuthoredQuestion.isShare_mul hearnedShare (h.share rfl)).2
    have hfraction := AuthoredQuestion.eq_one_of_isShare (h.share rfl) (Binary64.le_trans hle hpart)
    rw [hfraction, hearnedShare.mul_one] at hle
    obtain ⟨sub, hsub, hearned⟩ := hm.earned_of_one (h.single rfl)
    have hweight := h.weights sub (List.mem_of_getElem? hsub)
    obtain ⟨hvalue, hfull⟩ := hm.value_share.eq_one_of_mul (SubPattern.weightFraction_share hweight)
      (hearned.symm.trans (hearnedShare.eq_one_of_le hle))
    exact ⟨hfraction, m.subPattern, sub, hsub,
      (SubPattern.weightFraction_eq_one_iff hweight).mp hfull, hm.value_eq.symm.trans hvalue⟩
  · rintro ⟨hfraction, index, sub, hsub, hfull, hvalue⟩
    have hmatched : (field.evaluate limits index answer).matched = true := by
      rw [MatchResult.matched, hvalue]
      decide +kernel
    have hweight := (SubPattern.weightFraction_eq_one_iff (Nat.le_of_eq hfull)).mpr hfull
    refine ⟨_, ⟨index, sub, hsub, hmatched, rfl⟩, ?_⟩
    rw [hvalue, hweight, hfraction]
    decide +kernel

end

end Field

/-! ## All alternatives -/

namespace Grade

variable {fields : List Field} (h : ∀ field ∈ fields, AuthoredQuestion.Fitted .single field)
  (limits : Limits) (answer : String)

include h

/-- The fraction is a share of the mark, and the most that a sub-pattern of an alternative makes of
the answer. -/
theorem ofSingle_isMaximum :
    AuthoredQuestion.isShare (ofSingle limits fields answer).fraction = true
      ∧ IsMaximum (fun worth => ∃ field ∈ fields, field.IsWorth limits answer worth)
        (ofSingle limits fields answer).fraction := by
  have hmaximum := Binary64.isMaximum_foldl_max
    (f := fun field => (field.gradeAlternative limits answer).earned)
    (fun field hfield => Field.gradeAlternative_isMaximum (h field hfield))
    fun field hfield _ => Field.zero_le_of_isWorth (h field hfield)
  have hshare : AuthoredQuestion.isShare
      ((fields.map fun field => (field.gradeAlternative limits answer).earned).foldl
        Binary64.max 0) = true := by
    rcases List.mem_cons.mp (Binary64.foldl_max_mem _ 0) with hfold | hmem
    · rw [hfold]
      exact AuthoredQuestion.isShare_zero
    · obtain ⟨field, hfield, hearned⟩ := List.mem_map.mp hmem
      rw [← hearned]
      exact (Field.gradeAlternative_le limits answer (h field hfield).toSound
        ((h field hfield).share rfl)).1
  unfold ofSingle
  dsimp only
  rw [List.map_map, Function.comp_def, AuthoredQuestion.clamp_of_isShare hshare]
  exact ⟨hshare, hmaximum⟩

/-- A whole answer is right if it gets the whole of an alternative that is worth the whole mark. -/
theorem ofSingle_right_iff :
    (ofSingle limits fields answer).classification = .right ↔
      ∃ field ∈ fields, field.fraction = 1 ∧ ∃ index sub, field.subPatterns[index]? = some sub
        ∧ sub.weight = fullWeight ∧ (field.evaluate limits index answer).value = 1 := by
  obtain ⟨-, hmaximum⟩ := ofSingle_isMaximum h limits answer
  have hclass : (ofSingle limits fields answer).classification =
      .ofFraction (ofSingle limits fields answer).fraction := rfl
  rw [hclass, Classification.ofFraction_eq_right_iff]
  constructor
  · intro hle
    rcases hmaximum.attained with ⟨worth, ⟨field, hfield, hworth⟩, hsame⟩ | ⟨-, hsame⟩
    · exact ⟨field, hfield, (Field.isWorth_one_iff (h field hfield)).mp
        ⟨worth, hworth, Binary64.le_trans hle (Binary64.le_of_same hsame)⟩⟩
    · have hzero := Binary64.le_trans hle (Binary64.le_of_same hsame)
      exact absurd hzero (by decide +kernel)
  · rintro ⟨field, hfield, hwhole⟩
    obtain ⟨worth, hworth, hle⟩ := (Field.isWorth_one_iff (h field hfield)).mpr hwhole
    exact Binary64.le_trans hle (hmaximum.most worth ⟨field, hfield, hworth⟩)

omit h in
/-- Each alternative has its own outcome, in the order of the alternatives. -/
theorem zip_outcomes (fields : List Field) :
    fields.zip (ofSingle limits fields answer).outcomes =
      fields.map fun field => (field, field.gradeAlternative limits answer) := by
  have hzip : (fields.map id).zip (fields.map fun field => field.gradeAlternative limits answer)
      = fields.map fun field => (field, field.gradeAlternative limits answer) := List.zip_map'
  rwa [List.map_id] at hzip

theorem fraction_perm {fields' : List Field} (hperm : fields'.Perm fields) :
    (ofSingle limits fields' answer).fraction.same (ofSingle limits fields answer).fraction
      = true := by
  have h' : ∀ field ∈ fields', AuthoredQuestion.Fitted .single field :=
    fun field hfield => h field (hperm.mem_iff.mp hfield)
  obtain ⟨-, hmaximum⟩ := ofSingle_isMaximum h limits answer
  obtain ⟨-, hmaximum'⟩ := ofSingle_isMaximum h' limits answer
  refine IsMaximum.same hmaximum' (hmaximum.congr fun worth => ?_)
  simp only [hperm.mem_iff]

end Grade

namespace Question

/-- Two gradings of the same alternatives in another order: the outcomes go with the alternatives,
and the grade is the same, but for the sign of a fraction of zero. -/
structure Reordered (fields fields' : List Field) (grade grade' : Grade) : Prop where
  length : grade'.outcomes.length = fields'.length
  outcomes : (fields'.zip grade'.outcomes).Perm (fields.zip grade.outcomes)
  fraction : grade'.fraction.same grade.fraction = true
  classification : grade'.classification = grade.classification

/-- A question with one answer that was built grades a whole answer by the greatest of what the
matching sub-patterns of its alternatives make of it. The answer is right exactly if an alternative
that is worth the whole mark has a sub-pattern of full weight that it matches without loss. The
order of the alternatives does not matter. -/
theorem grade_single {authored : AuthoredQuestion} {question : Question}
    (hbuild : authored.build = .ok question) (hsingle : question.flavor = .single)
    (limits : Limits) (answer : String) :
    let grade := question.grade limits (.single answer)
    (Binary64.le 0 grade.fraction = true ∧ grade.fraction.le 1 = true)
      ∧ IsMaximum (fun worth => ∃ field ∈ question.fields, field.IsWorth limits answer worth)
        grade.fraction
      ∧ (grade.classification = .right ↔
        ∃ field ∈ question.fields, field.fraction = 1
          ∧ ∃ index sub, field.subPatterns[index]? = some sub ∧ sub.weight = fullWeight
            ∧ (field.evaluate limits index answer).value = 1)
      ∧ ∀ fields' : List Field, fields'.Perm question.fields →
        Reordered question.fields fields' grade
          ({ question with fields := fields' }.grade limits (.single answer)) := by
  intro grade
  have hfitted := (AuthoredQuestion.build_fitted hbuild).1
  rw [hsingle] at hfitted
  obtain ⟨hshare, hmaximum⟩ := Grade.ofSingle_isMaximum hfitted limits answer
  refine ⟨Bool.and_eq_true_iff.mp hshare, hmaximum, Grade.ofSingle_right_iff hfitted limits answer,
    fun fields' hperm => ?_⟩
  have hfraction := Grade.fraction_perm hfitted limits answer hperm
  refine ⟨List.length_map _, ?_, hfraction, Classification.ofFraction_congr hfraction⟩
  change (fields'.zip (Grade.ofSingle limits fields' answer).outcomes).Perm
    (question.fields.zip (Grade.ofSingle limits question.fields answer).outcomes)
  rw [Grade.zip_outcomes, Grade.zip_outcomes]
  exact hperm.map _

/-- The answer `ls`, for half of which `ls -a` will do, and the answer `ls -a` for three quarters of
the mark. -/
def listFiles : AuthoredQuestion :=
  ⟨"q", "q", .single, "",
    [⟨"[[ls]]//\n%50[[ls -a]]//", 1⟩, ⟨"[[ls -a]]//", .ofDecimal false 75 (-2)⟩]⟩

def listFilesBuilt : Question :=
  let pattern (body : String) (weight : Nat) : SubPattern := ⟨[body], weight, "", .default⟩
  ⟨"q", "q", .single, "",
    [{ Field.empty with subPatterns := [pattern "ls" 100, pattern "ls -a" 50] },
      { Field.empty with
        subPatterns := [pattern "ls -a" 100], fraction := .ofDecimal false 75 (-2) }]⟩

theorem grade_single_listFiles :
    listFiles.build = .ok listFilesBuilt
      ∧ IsMaximum
        (fun worth => ∃ field ∈ listFilesBuilt.fields, field.IsWorth .default "ls -a" worth)
        (.ofDecimal false 75 (-2))
      ∧ (listFilesBuilt.grade .default (.single "ls")).classification = .right
      ∧ Reordered listFilesBuilt.fields listFilesBuilt.fields.reverse
        (listFilesBuilt.grade .default (.single "ls -a"))
        ({ listFilesBuilt with fields := listFilesBuilt.fields.reverse }.grade .default
          (.single "ls -a")) := by
  have hbuild : listFiles.build = .ok listFilesBuilt :=
    AuthoredQuestion.build_of_toOption (by decide +kernel)
  have hfraction : (listFilesBuilt.grade .default (.single "ls -a")).fraction
      = .ofDecimal false 75 (-2) := by decide +kernel
  obtain ⟨-, hmaximum, -, hreordered⟩ := grade_single hbuild rfl .default "ls -a"
  obtain ⟨-, -, hright, -⟩ := grade_single hbuild rfl .default "ls"
  rw [hfraction] at hmaximum
  refine ⟨hbuild, hmaximum, hright.mpr ?_, hreordered _ (List.reverse_perm _)⟩
  exact ⟨_, List.mem_cons_self, rfl, 0, _, rfl, rfl, by decide +kernel⟩

end Question

end Gapfill
