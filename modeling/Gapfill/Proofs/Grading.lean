import Gapfill.Proofs.Building
import Gapfill.Proofs.Matches
import Gapfill.Proofs.Number.Order
import Gapfill.Proofs.ParsedField

/-!
# What a response is worth

Grading goes by the shape of the response: texts for gaps are summed up over all
gaps, and a whole answer gets the share of its best alternative. For a response
of the shape that the flavor of the question asks for, this is what the flavor
promises (`grade_of_suits`); all values in between are shares, so that rounding
cannot lift a result above the share that an alternative is worth.

Nothing keeps a response of the other shape from being graded. Then the promise
of the flavor is broken, one way and the other (`shape_overrides_flavor`).
-/

namespace Gapfill

open Binary64 (Share Positive)

/-! ## Shares -/

namespace AuthoredQuestion

open Binary64 in
/-- A share of the mark, in ranks. Negative zero is one. -/
theorem isShare_iff {fraction : Binary64} :
    isShare fraction = true ↔
      ∃ s rank h, fraction = signed s rank h ∧ rank ≤ oneRank ∧ (s = true → rank = 0) := by
  unfold isShare
  rw [zero_eq, one_eq]
  cases fraction with
  | nan => simp [le]
  | signed s rank h =>
      simp only [le, key, Bool.and_eq_true]
      constructor
      · intro hle
        refine ⟨s, rank, h, rfl, ?_⟩
        cases s <;> simp at hle ⊢ <;> omega
      · rintro ⟨t, r, hr, heq, hone, hzero⟩
        obtain ⟨rfl, rfl⟩ := Binary64.signed.inj heq
        cases s <;> simp at hzero ⊢ <;> omega

/-- A part of a share is a share again, and no greater one. -/
theorem isShare_mul {x fraction : Binary64} (hx : Share x) (hf : isShare fraction = true) :
    isShare (x * fraction) = true ∧ (x * fraction).le fraction = true := by
  obtain ⟨s, rank, h, rfl, hone, hzero⟩ := isShare_iff.mp hf
  obtain ⟨c, hc, heq, hle⟩ := hx.mul_signed s h (Nat.lt_of_le_of_lt hone Binary64.oneRank_lt)
  rw [heq]
  refine ⟨isShare_iff.mpr ⟨s, c, hc, rfl, Nat.le_trans hle hone, fun hs => ?_⟩, ?_⟩
  · have := hzero hs
    omega
  · simp only [Binary64.le, Binary64.key]
    cases s with
    | true =>
        have := hzero rfl
        simp
        omega
    | false => simpa using hle

theorem isShare_zero : isShare 0 = true := by decide +kernel

theorem clamp_of_isShare {x : Binary64} (h : isShare x = true) : Binary64.clamp 0 1 x = x := by
  obtain ⟨hzero, hone⟩ := Bool.and_eq_true_iff.mp h
  unfold Binary64.clamp
  simp [Binary64.lt_eq_false_of_le hzero, Binary64.lt_eq_false_of_le hone]

end AuthoredQuestion

/-! ## Matches -/

theorem anyOrderScore_le (maxScore answerLines wrongLines : Nat) :
    anyOrderScore maxScore answerLines wrongLines ≤ maxScore := by
  unfold anyOrderScore
  dsimp only
  omega

/-- What an answer that matches is worth is a share. -/
theorem Compiled.evaluate_share {limits : Limits} {answer : List Char} {compiled : Compiled}
    (h : (compiled.evaluate limits answer).matched = true) :
    Share (compiled.evaluate limits answer).value := by
  unfold evaluate at h ⊢
  split
  · exact Binary64.share_zero
  · split
    · exact Binary64.share_zero
    · dsimp only
      split
      · exact Binary64.share_one
      · exact Binary64.share_zero
  · rename_i matchers separator options
    split
    · exact Binary64.share_zero
    · rename_i normalized hnormalized
      simp only [hnormalized] at h
      have hscore : (assign (matchers.map Matcher.accepts)
          (answerLines separator options normalized)).score ≤ matchers.length := by
        have := anyOrderScore_le (matchers.map Matcher.accepts).length
        rw [List.length_map] at this
        unfold assign
        rw [List.length_map]
        exact this _ _
      rcases Binary64.ofNat_div_share (Nat.le_trans hscore (Nat.le_max_left _ 1))
        (Nat.le_max_right matchers.length 1) with hnan | hshare
      · exact absurd (Binary64.lt_nan 0 ▸ hnan ▸ h) Bool.false_ne_true
      · exact hshare

theorem weight_quotient_ne_nan :
    ∀ w < fullWeight + 1, (Binary64.ofNat w / Binary64.ofNat fullWeight) ≠ Binary64.nan := by
  decide +kernel

theorem SubPattern.weightFraction_share {sub : SubPattern} (h : sub.weight ≤ fullWeight) :
    Share sub.weightFraction :=
  (Binary64.ofNat_div_share h (by decide)).resolve_left
    (weight_quotient_ne_nan _ (Nat.lt_succ_of_le h))

namespace Field

variable {limits : Limits} {field : Field} {answer : String} {m : BestMatch}

theorem IsMatch.value_share (hm : field.IsMatch limits answer m) : Share m.value := by
  obtain ⟨sub, hsub, -⟩ := hm.earned_eq
  have hmatched := hm.matched
  rw [evaluate_eq hsub] at hmatched
  rw [hm.value_eq, evaluate_eq hsub]
  exact Compiled.evaluate_share hmatched

/-- In a field of one point, a match earns a share. -/
theorem IsMatch.earned_share (hm : field.IsMatch limits answer m) (hone : field.points = 1)
    (hweights : ∀ sub ∈ field.subPatterns, sub.weight ≤ fullWeight) : Share m.earned := by
  obtain ⟨sub, hsub, hearned⟩ := hm.earned_eq
  rw [hearned, hone]
  exact (Binary64.share_one.mul hm.value_share).mul
    (SubPattern.weightFraction_share (hweights sub (List.mem_of_getElem? hsub)))

/-- An alternative earns a share of the mark that is at most its own. -/
theorem gradeAlternative_le (limits : Limits) (answer : String) (h : field.Sound .single)
    (hshare : AuthoredQuestion.isShare field.fraction = true) :
    AuthoredQuestion.isShare (field.gradeAlternative limits answer).earned = true
      ∧ (field.gradeAlternative limits answer).earned.le field.fraction = true := by
  have hzero : AuthoredQuestion.isShare 0 = true ∧ Binary64.le 0 field.fraction = true :=
    ⟨AuthoredQuestion.isShare_zero, (Bool.and_eq_true_iff.mp hshare).1⟩
  have hone := h.single rfl
  unfold gradeAlternative
  dsimp only
  split
  · rename_i b hb
    split
    · have hb := (isMatch_of_best? hb).earned_share hone h.weights
      rw [hone, hb.div_one]
      exact AuthoredQuestion.isShare_mul hb hshare
    · exact hzero
  · exact hzero

end Field

/-! ## Built questions -/

namespace AuthoredQuestion

/-- A field as building leaves it: a gap has its number, and an alternative its share. -/
structure Fitted (flavor : Flavor) (field : Field) : Prop extends field.Sound flavor where
  numbered : flavor = .cloze → ∃ gap, field.gap = some gap
  share : flavor = .single → isShare field.fraction = true

theorem buildField_fitted {id : String} {flavor : Flavor} {index : Nat} {answer : AuthoredAnswer}
    {field : Field} (h : buildField id flavor index answer = .ok field) : Fitted flavor field := by
  unfold buildField at h
  split at h
  · simp at h
  · rename_i parsed hparse
    have hsound := Field.parse_sound hparse
    cases flavor with
    | cloze =>
        obtain rfl := Except.ok.inj h
        exact ⟨⟨hsound.weights, hsound.positive, nofun⟩, fun _ => ⟨_, rfl⟩, nofun⟩
    | single =>
        dsimp only at h
        split at h
        · rename_i hshare
          obtain rfl := Except.ok.inj h
          exact ⟨⟨hsound.weights, hsound.positive, hsound.single⟩, nofun, fun _ => hshare⟩
        · simp at h

/-- What every built field has, all fields of a question have; there is none only if there is no
answer. -/
theorem forall_of_buildFields {P : Field → Prop} {id : String} {flavor : Flavor}
    (hP : ∀ {index answer field}, buildField id flavor index answer = .ok field → P field) :
    ∀ {index : Nat} {answers : List AuthoredAnswer} {fields : List Field},
      buildFields id flavor index answers = .ok fields →
        (∀ field ∈ fields, P field)
          ∧ (fields = [] → ∀ answer ∈ answers, answer.pattern.isEmpty = true)
  | _, [], fields, h => by
      obtain rfl := Except.ok.inj h
      simp
  | index, answer :: rest, fields, h => by
      rw [buildFields] at h
      split at h
      · rename_i hempty
        obtain ⟨hfields, hnil⟩ := forall_of_buildFields hP h
        exact ⟨hfields, fun heq => List.forall_mem_cons.mpr ⟨hempty, hnil heq⟩⟩
      · cases hfield : buildField id flavor index answer with
        | error e => simp [hfield] at h
        | ok field =>
            cases hrest : buildFields id flavor (index + 1) rest with
            | error e => simp [hfield, hrest, Except.map] at h
            | ok others =>
                simp only [hfield, hrest, Except.map] at h
                obtain rfl := Except.ok.inj h
                exact ⟨List.forall_mem_cons.mpr
                  ⟨hP hfield, (forall_of_buildFields hP hrest).1⟩,
                  fun heq => absurd heq (List.cons_ne_nil _ _)⟩

/-- A cloze question with a clean report has an answer: its text marks a gap, and every gap that
it marks is answered. -/
theorem exists_answer_of_valid {text : String} {answers : List String}
    (h : (ValidationReport.ofQuestion .cloze text answers).isValid = true) :
    ∃ answer ∈ answers, answer.isEmpty = false := by
  have hnil : ValidationReport.ofQuestion .cloze text answers = [] := List.isEmpty_iff.mp h
  unfold ValidationReport.ofQuestion at hnil
  obtain ⟨hanswers, hopen⟩ := ValidationReport.foldl_record_eq_nil _ hnil
  obtain ⟨hgaps, -⟩ := ValidationReport.checkClozeAnswers_eq_nil hanswers
  unfold ValidationReport.checkGaps at hgaps
  dsimp only at hgaps
  split at hgaps
  · exact absurd hgaps (ValidationReport.record_ne_nil _ _ _)
  · rename_i hne
    obtain ⟨gap, hgap⟩ := List.exists_mem_of_ne_nil _ fun heq => hne (List.isEmpty_iff.mpr heq)
    have hanswered : ValidationReport.isAnswered answers gap = true := by
      cases hcase : ValidationReport.isAnswered answers gap with
      | true => rfl
      | false =>
          have : gap ∈ ValidationReport.openGaps (gapReferences text) answers := by
            simp [ValidationReport.openGaps, List.mem_eraseDups, hgap, hcase]
          simp [hopen] at this
    obtain ⟨-, hany⟩ := Bool.and_eq_true_iff.mp hanswered
    obtain ⟨answer, hanswer, hfilled⟩ := (Option.any_eq_true _ _).mp hany
    exact ⟨answer, List.mem_of_getElem? hanswer, by simpa using hfilled⟩

theorem build_of_toOption {question : AuthoredQuestion} {built : Question}
    (h : question.build.toOption = some built) : question.build = .ok built := by
  cases hbuild : question.build with
  | error e => simp [hbuild, Except.toOption] at h
  | ok q => simpa [hbuild, Except.toOption] using h

/-- A question is built only after a clean report, and from its answers. -/
theorem valid_of_build {question : AuthoredQuestion} {built : Question}
    (h : question.build = .ok built) :
    question.validate.isValid = true ∧ built.flavor = question.flavor
      ∧ buildFields question.id question.flavor 0 question.answers = .ok built.fields := by
  unfold build at h
  dsimp only at h
  split at h
  · rename_i hvalid
    cases hfields : buildFields question.id question.flavor 0 question.answers with
    | error e => simp [hfields, Except.map] at h
    | ok fields =>
        simp only [hfields, Except.map] at h
        obtain rfl := Except.ok.inj h
        exact ⟨hvalid, rfl, rfl⟩
  · simp at h

/-- What building leaves: fields of the flavor, and in a cloze question at least one. -/
theorem build_fitted {question : AuthoredQuestion} {built : Question}
    (h : question.build = .ok built) :
    (∀ field ∈ built.fields, Fitted built.flavor field)
      ∧ (built.flavor = .cloze → built.fields ≠ []) := by
  obtain ⟨hvalid, hflavor, hfields⟩ := valid_of_build h
  obtain ⟨hfitted, hnil⟩ := forall_of_buildFields buildField_fitted hfields
  refine ⟨hflavor ▸ hfitted, fun hcloze heq => ?_⟩
  unfold validate at hvalid
  rw [← hflavor, hcloze] at hvalid
  obtain ⟨text, htext, hne⟩ := exists_answer_of_valid hvalid
  obtain ⟨answer, hanswer, rfl⟩ := List.mem_map.mp htext
  simp [hnil heq answer hanswer] at hne

end AuthoredQuestion

/-! ## Grades -/

/-- Whether a response has the shape that a flavor asks for. -/
def Response.suits : Response → Flavor → Bool
  | cloze _, .cloze => true
  | single _, .single => true
  | _, _ => false

namespace Question

/-- What the flavor of a question promises about the grade of a response. Over gaps it is what the
fields earn together, each for its own text, as a share of their points; a whole answer is worth no
more than some alternative, and nothing without one. -/
def GradedByFlavor (limits : Limits) (question : Question) (response : Response) : Prop :=
  match question.flavor with
  | .cloze => (question.grade limits response).fraction = Binary64.clamp 0 1
      (.sum (question.fields.map fun field =>
          (field.grade limits (response.answerFor field.gap)).earned)
        / .sum (question.fields.map (·.points)))
  | .single => (question.fields = [] ∧ (question.grade limits response).fraction = 0)
      ∨ ∃ field ∈ question.fields,
        (question.grade limits response).fraction.le field.fraction = true

instance (limits : Limits) (question : Question) (response : Response) :
    Decidable (question.GradedByFlavor limits response) :=
  match h : question.flavor with
  | .cloze => decidable_of_iff _ (by unfold GradedByFlavor; rw [h])
  | .single => decidable_of_iff _ (by unfold GradedByFlavor; rw [h])

theorem clozeOutcomes_earned {limits : Limits} {answers : GapAnswers} {fields : List Field}
    (h : ∀ field ∈ fields, ∃ gap, field.gap = some gap) :
    (Grade.clozeOutcomes limits answers fields).map (·.earned) = fields.map fun field =>
      (field.grade limits ((Response.cloze answers).answerFor field.gap)).earned := by
  refine List.ext_getElem (by simp [Grade.clozeOutcomes]) fun i hi _ => ?_
  have hlt : i < fields.length := by simpa [Grade.clozeOutcomes] using hi
  obtain ⟨gap, hgap⟩ := h fields[i] (List.getElem_mem hlt)
  simp [Grade.clozeOutcomes, Field.gapAt, Response.answerFor, hgap]

theorem ofSingle_le {limits : Limits} {fields : List Field} {answer : String}
    (h : ∀ field ∈ fields, AuthoredQuestion.Fitted .single field) :
    (fields = [] ∧ (Grade.ofSingle limits fields answer).fraction = 0)
      ∨ ∃ field ∈ fields,
        (Grade.ofSingle limits fields answer).fraction.le field.fraction = true := by
  have hzero := AuthoredQuestion.clamp_of_isShare AuthoredQuestion.isShare_zero
  unfold Grade.ofSingle
  dsimp only
  rcases List.mem_cons.mp (Binary64.foldl_max_mem _ 0) with hmax | hmem
  · rw [hmax, hzero]
    cases fields with
    | nil => exact Or.inl ⟨rfl, rfl⟩
    | cons field rest =>
        have hshare := (h field List.mem_cons_self).share rfl
        exact Or.inr ⟨field, List.mem_cons_self, (Bool.and_eq_true_iff.mp hshare).1⟩
  · obtain ⟨outcome, houtcome, hearned⟩ := List.mem_map.mp hmem
    obtain ⟨field, hfield, rfl⟩ := List.mem_map.mp houtcome
    obtain ⟨hshare, hle⟩ := Field.gradeAlternative_le limits answer (h field hfield).toSound
      ((h field hfield).share rfl)
    rw [← hearned, AuthoredQuestion.clamp_of_isShare hshare]
    exact Or.inr ⟨field, hfield, hle⟩

/-- A question that was built grades a response of the shape that its flavor asks for as the flavor
promises. -/
theorem grade_of_suits {authored : AuthoredQuestion} {question : Question} {limits : Limits}
    {response : Response} (hbuild : authored.build = .ok question)
    (hsuits : response.suits question.flavor = true) :
    question.GradedByFlavor limits response := by
  obtain ⟨hfitted, hne⟩ := AuthoredQuestion.build_fitted hbuild
  unfold GradedByFlavor grade
  cases hflavor : question.flavor with
  | single =>
      rw [hflavor] at hfitted hsuits
      cases response with
      | cloze answers => simp [Response.suits] at hsuits
      | single answer => exact ofSingle_le hfitted
  | cloze =>
      rw [hflavor] at hfitted hsuits
      cases response with
      | single answer => simp [Response.suits] at hsuits
      | cloze answers =>
          have hmost : Binary64.lt 0 (.sum (question.fields.map (·.points))) = true := by
            have hpoints : ∀ points ∈ question.fields.map (·.points), points.Positive := by
              intro points hpoints
              obtain ⟨field, hfield, rfl⟩ := List.mem_map.mp hpoints
              exact (hfitted field hfield).positive
            cases hfields : question.fields with
            | nil => exact absurd hfields (hne hflavor)
            | cons field rest =>
                rw [hfields] at hpoints
                exact Binary64.positive_iff.mpr (Binary64.sum_positive hpoints)
          change (Grade.ofCloze limits question.fields answers).fraction = _
          unfold Grade.ofCloze
          dsimp only
          rw [if_pos hmost, clozeOutcomes_earned fun field hfield =>
            (hfitted field hfield).numbered rfl]

/-- Two gaps, for `a` and for `b`. -/
def twoGaps : AuthoredQuestion :=
  ⟨"q", "q", .cloze, "[[1]] [[2]]", [⟨"[[a]]//", 1⟩, ⟨"[[b]]//", 1⟩]⟩

def twoGapsBuilt : Question :=
  let field (gap : Nat) (body : String) : Field :=
    { Field.empty with gap := some gap, subPatterns := [⟨[body], 100, "", .default⟩] }
  ⟨"q", "q", .cloze, "[[1]] [[2]]", [field 1 "a", field 2 "b"]⟩

/-- The alternative `a`, for half the mark. -/
def halfMark : AuthoredQuestion := ⟨"q", "q", .single, "", [⟨"[[a]]//", .ofDecimal false 5 (-1)⟩]⟩

def halfMarkBuilt : Question :=
  ⟨"q", "q", .single, "", [{ Field.empty with
    subPatterns := [⟨["a"], 100, "", .default⟩], fraction := .ofDecimal false 5 (-1) }]⟩

theorem twoGaps_build : twoGaps.build = .ok twoGapsBuilt :=
  AuthoredQuestion.build_of_toOption (by decide +kernel)

theorem halfMark_build : halfMark.build = .ok halfMarkBuilt :=
  AuthoredQuestion.build_of_toOption (by decide +kernel)

theorem grade_one_of_two_gaps :
    twoGaps.build = .ok twoGapsBuilt
      ∧ twoGapsBuilt.GradedByFlavor .default (.cloze [(1, "a")]) :=
  ⟨twoGaps_build, grade_of_suits twoGaps_build (by decide)⟩

/-- A whole answer to a question with two gaps is right if it fits one of them, and a text for the
first gap gets the whole mark for an alternative that is worth half of it. -/
theorem shape_overrides_flavor :
    (twoGaps.build = .ok twoGapsBuilt ∧ ¬ twoGapsBuilt.GradedByFlavor .default (.single "a"))
      ∧ (halfMark.build = .ok halfMarkBuilt
        ∧ ¬ halfMarkBuilt.GradedByFlavor .default (.cloze [(1, "a")])) :=
  ⟨⟨twoGaps_build, by decide +kernel⟩, halfMark_build, by decide +kernel⟩

end Question

end Gapfill
