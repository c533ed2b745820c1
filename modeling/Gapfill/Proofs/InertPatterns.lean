import Mathlib.Data.List.Induction
import Gapfill.Proofs.Matches

/-!
# Patterns that make no difference

A stored sub-pattern that is refused stands for a pattern that matches nothing.
Deleting it moves the sub-patterns behind it up, and that is all: the matches of
the field are the same ones under other indices (`matchesFrom_without`), and the
pass over them does not look at an index (`bestOf_renumbered`). The same goes for
every sub-pattern that is worth nothing against the answer.

So the grade of a response is the same, each index in it lowered by the number of
sub-patterns deleted before it, and under that index stands the sub-pattern that
was meant (`Grade.Unaffected`).
-/

namespace Gapfill

/-! ## Indices after a deletion -/

/-- The index of an element after the deletion of others: it is lowered by the number of deleted
ones before it. -/
def renumber (deleted : Nat → Bool) (index : Nat) : Nat :=
  index - (List.range index).countP deleted

theorem countP_range_le (deleted : Nat → Bool) (index : Nat) :
    (List.range index).countP deleted ≤ index :=
  Nat.le_trans List.countP_le_length (Nat.le_of_eq List.length_range)

theorem renumber_succ_of_deleted {deleted : Nat → Bool} {index : Nat}
    (h : deleted index = true) : renumber deleted (index + 1) = renumber deleted index := by
  unfold renumber
  rw [List.range_succ, List.countP_append, List.countP_singleton, if_pos h]
  omega

theorem renumber_succ_of_kept {deleted : Nat → Bool} {index : Nat}
    (h : deleted index = false) : renumber deleted (index + 1) = renumber deleted index + 1 := by
  have hle := countP_range_le deleted index
  unfold renumber
  rw [List.range_succ, List.countP_append, List.countP_singleton, h, if_neg Bool.false_ne_true]
  omega

/-- The elements that remain; the first has the index `index`. -/
def keptFrom {α : Type} (deleted : Nat → Bool) (index : Nat) (xs : List α) : List α :=
  ((xs.zipIdx index).filter fun entry => !deleted entry.2).map (·.1)

theorem keptFrom_cons_of_deleted {α : Type} {deleted : Nat → Bool} {index : Nat}
    (h : deleted index = true) (x : α) (xs : List α) :
    keptFrom deleted index (x :: xs) = keptFrom deleted (index + 1) xs := by
  simp [keptFrom, h]

theorem keptFrom_cons_of_kept {α : Type} {deleted : Nat → Bool} {index : Nat}
    (h : deleted index = false) (x : α) (xs : List α) :
    keptFrom deleted index (x :: xs) = x :: keptFrom deleted (index + 1) xs := by
  simp [keptFrom, h]

theorem keptFrom_append {α : Type} (deleted : Nat → Bool) (index : Nat) (xs ys : List α) :
    keptFrom deleted index (xs ++ ys) =
      keptFrom deleted index xs ++ keptFrom deleted (index + xs.length) ys := by
  simp only [keptFrom, List.zipIdx_append, List.filter_append, List.map_append]

theorem length_keptFrom {α : Type} (deleted : Nat → Bool) (xs : List α) :
    (keptFrom deleted 0 xs).length = renumber deleted xs.length := by
  induction xs using List.reverseRecOn with
  | nil => rfl
  | append_singleton xs x ih =>
      rw [keptFrom_append, List.length_append, ih, List.length_append, List.length_singleton,
        Nat.zero_add]
      cases hdeleted : deleted xs.length with
      | true => rw [keptFrom_cons_of_deleted hdeleted, renumber_succ_of_deleted hdeleted]; rfl
      | false => rw [keptFrom_cons_of_kept hdeleted, renumber_succ_of_kept hdeleted]; rfl

/-- An element that is not deleted stands at its new index. -/
theorem getElem?_keptFrom {α : Type} {deleted : Nat → Bool} {xs : List α} {index : Nat} {x : α}
    (hx : xs[index]? = some x) (hkept : deleted index = false) :
    (keptFrom deleted 0 xs)[renumber deleted index]? = some x := by
  obtain ⟨hlt, hx⟩ := List.getElem?_eq_some_iff.mp hx
  have hlength : (xs.take index).length = index := List.length_take_of_le (Nat.le_of_lt hlt)
  have hbefore := length_keptFrom deleted (xs.take index)
  have hsplit := keptFrom_append deleted 0 (xs.take index) (xs.drop index)
  rw [List.take_append_drop, hlength, Nat.zero_add, List.drop_eq_getElem_cons hlt, hx,
    keptFrom_cons_of_kept hkept] at hsplit
  rw [hlength] at hbefore
  rw [hsplit, ← hbefore, List.getElem?_append_right (Nat.le_refl _), Nat.sub_self]
  rfl

/-! ## Fields without some of their sub-patterns -/

/-- The match under another index. -/
def BestMatch.renumbered (index : Nat → Nat) (m : BestMatch) : BestMatch :=
  { m with subPattern := index m.subPattern }

/-- The outcome with another index of the sub-pattern. -/
def Outcome.renumbered (index : Nat → Nat) (outcome : Outcome) : Outcome :=
  { outcome with subPattern := outcome.subPattern.map index }

theorem better_renumbered (index : Nat → Nat) (best : Option BestMatch) (m : BestMatch) :
    Field.better (best.map (·.renumbered index)) (m.renumbered index) =
      (Field.better best m).renumbered index := by
  cases best with
  | none => rfl
  | some b => exact (apply_ite (BestMatch.renumbered index) _ _ _).symm

/-- The pass over the matches does not look at their indices. -/
theorem bestOf_renumbered (index : Nat → Nat) : ∀ (best : Option BestMatch) (ms : List BestMatch),
    bestOf (best.map (·.renumbered index)) (ms.map (·.renumbered index)) =
      (bestOf best ms).map (·.renumbered index)
  | _, [] => rfl
  | best, m :: ms => by
      have ih := bestOf_renumbered index (some (Field.better best m)) ms
      rw [Option.map_some, ← better_renumbered] at ih
      exact ih

namespace Field

/-- The field without the sub-patterns at these indices. -/
def without (field : Field) (deleted : Nat → Bool) : Field :=
  { field with subPatterns := keptFrom deleted 0 field.subPatterns }

variable {limits : Limits} {field : Field} {answer : String} {deleted : Nat → Bool}

theorem without_gap : (field.without deleted).gap = field.gap := rfl

theorem without_points : (field.without deleted).points = field.points := rfl

theorem without_fraction : (field.without deleted).fraction = field.fraction := rfl

theorem matchWith?_without (sub : SubPattern) (index : Nat) :
    (field.without deleted).matchWith? limits answer sub (renumber deleted index) =
      (field.matchWith? limits answer sub index).map (·.renumbered (renumber deleted)) := by
  unfold matchWith?
  dsimp only [without]
  split <;> rfl

/-- The matches that remain, if no match is deleted. -/
theorem matchesFrom_without : ∀ {index : Nat} {subs : List SubPattern},
    (∀ m ∈ field.matchesFrom limits answer index subs, deleted m.subPattern = false) →
      (field.without deleted).matchesFrom limits answer (renumber deleted index)
          (keptFrom deleted index subs) =
        (field.matchesFrom limits answer index subs).map (·.renumbered (renumber deleted))
  | _, [], _ => rfl
  | index, sub :: rest, h => by
      rw [matchesFrom_cons] at h
      obtain ⟨hsub, hrest⟩ := List.forall_mem_append.mp h
      have ih := matchesFrom_without hrest
      rw [matchesFrom_cons, List.map_append, ← ih]
      cases hdeleted : deleted index with
      | true =>
          have hnone : field.matchWith? limits answer sub index = none := by
            refine Option.eq_none_iff_forall_ne_some.mpr fun m hm => ?_
            have hkept := hsub m (by simp [hm])
            rw [subPattern_of_matchWith? hm, hdeleted] at hkept
            exact absurd hkept nofun
          rw [keptFrom_cons_of_deleted hdeleted, renumber_succ_of_deleted hdeleted, hnone]
          rfl
      | false =>
          rw [keptFrom_cons_of_kept hdeleted, renumber_succ_of_kept hdeleted, matchesFrom_cons,
            matchWith?_without]
          cases field.matchWith? limits answer sub index <;> rfl

/-- The field finds the same best match without sub-patterns that do not match the answer. -/
theorem best?_without
    (h : ∀ index, deleted index = true → (field.evaluate limits index answer).matched = false) :
    (field.without deleted).best? limits answer =
      (field.best? limits answer).map (·.renumbered (renumber deleted)) := by
  have hkept : ∀ m ∈ field.matchesFrom limits answer 0 field.subPatterns,
      deleted m.subPattern = false := by
    intro m hm
    refine Bool.eq_false_iff.mpr fun hdeleted => ?_
    exact absurd ((h _ hdeleted).symm.trans (mem_matchesFrom_iff.mp hm).matched) nofun
  rw [best?_eq_bestOf, best?_eq_bestOf, ← Option.map_none, ← bestOf_renumbered,
    ← matchesFrom_without hkept]
  rfl

/-- Under its new index stands the sub-pattern of the best match. -/
theorem getElem?_without {b : BestMatch} (hb : field.best? limits answer = some b)
    (h : ∀ index, deleted index = true → (field.evaluate limits index answer).matched = false) :
    ∃ sub, field.subPatterns[b.subPattern]? = some sub
      ∧ (field.without deleted).subPatterns[renumber deleted b.subPattern]? = some sub := by
  have hmatch := isMatch_of_best? hb
  obtain ⟨sub, hsub, -⟩ := hmatch.earned_eq
  refine ⟨sub, hsub, getElem?_keptFrom hsub (Bool.eq_false_iff.mpr fun hdeleted => ?_)⟩
  exact absurd ((h _ hdeleted).symm.trans hmatch.matched) nofun

theorem grade_without {text : Option String}
    (h : ∀ answer ∈ text, ∀ index, deleted index = true →
      (field.evaluate limits index answer).matched = false) :
    (field.without deleted).grade limits text =
      (field.grade limits text).renumbered (renumber deleted) := by
  have hbest : text.bind ((field.without deleted).best? limits) =
      (text.bind (field.best? limits)).map (·.renumbered (renumber deleted)) := by
    cases text with
    | none => rfl
    | some answer => exact best?_without (h answer rfl)
  unfold grade
  rw [hbest, without_gap, without_points]
  cases text.bind (field.best? limits) <;>
    simp only [Outcome.renumbered, Option.map, BestMatch.renumbered]

theorem gradeAlternative_without
    (h : ∀ index, deleted index = true → (field.evaluate limits index answer).matched = false) :
    (field.without deleted).gradeAlternative limits answer =
      (field.gradeAlternative limits answer).renumbered (renumber deleted) := by
  unfold gradeAlternative
  rw [best?_without h, without_gap, without_points, without_fraction]
  cases field.best? limits answer <;>
    simp only [Outcome.renumbered, Option.map, BestMatch.renumbered]

/-- Whether the sub-pattern at an index is refused. -/
def refuses (limits : Limits) (field : Field) (index : Nat) : Bool :=
  field.subPatterns[index]?.any fun sub =>
    !(Compiled.ofSubPattern sub field.separator limits).isOk

theorem evaluate_of_refuses {index : Nat} (h : field.refuses limits index = true)
    (answer : String) : field.evaluate limits index answer = .none := by
  obtain ⟨sub, hsub, hrefused⟩ := Option.any_eq_true _ _ |>.mp h
  rw [evaluate_eq hsub]
  unfold Compiled.ofStored
  cases hcompile : Compiled.ofSubPattern sub field.separator limits with
  | ok compiled => simp [hcompile, Except.isOk, Except.toBool] at hrefused
  | error e => rfl

end Field

/-! ## Grades without some of the sub-patterns -/

namespace Grade

/-- The grade with other indices of the sub-patterns; `index` is given the index of the outcome
first. -/
def renumbered (index : Nat → Nat → Nat) (grade : Grade) : Grade :=
  { grade with outcomes := grade.outcomes.mapIdx fun i outcome => outcome.renumbered (index i) }

/-- The fields without some of their sub-patterns; `deleted` is given the index of the field
first. -/
def deleting (deleted : Nat → Nat → Bool) (fields : List Field) : List Field :=
  fields.mapIdx fun i field => field.without (deleted i)

/-- The deleted sub-patterns make no difference to the grade of the response: it is the same with
new indices, under which stand the sub-patterns that were named before. -/
structure Unaffected (limits : Limits) (fields : List Field) (response : Response)
    (deleted : Nat → Nat → Bool) : Prop where
  grade : ofResponse limits (deleting deleted fields) response =
    (ofResponse limits fields response).renumbered fun i => renumber (deleted i)
  named : ∀ i field outcome, fields[i]? = some field →
    (ofResponse limits fields response).outcomes[i]? = some outcome →
      ∀ index ∈ outcome.subPattern, ∃ sub, field.subPatterns[index]? = some sub
        ∧ (field.without (deleted i)).subPatterns[renumber (deleted i) index]? = some sub

/-- The deleted sub-patterns do not match the answers that their fields are graded on. -/
def Unmatched (limits : Limits) (fields : List Field) (response : Response)
    (deleted : Nat → Nat → Bool) : Prop :=
  ∀ i field, fields[i]? = some field → ∀ text ∈ response.answerFor (some (field.gapAt i)),
    ∀ index, deleted i index = true → (field.evaluate limits index text).matched = false

variable {limits : Limits} {fields : List Field} {response : Response}
  {deleted : Nat → Nat → Bool}

theorem map_earned_renumbered (index : Nat → Nat → Nat) (outcomes : List Outcome) :
    (outcomes.mapIdx fun i outcome => outcome.renumbered (index i)).map (·.earned) =
      outcomes.map (·.earned) := by
  refine List.ext_getElem? fun i => ?_
  rw [List.getElem?_map, List.getElem?_mapIdx, List.getElem?_map]
  cases outcomes[i]? <;> rfl

theorem map_points_deleting (deleted : Nat → Nat → Bool) (fields : List Field) :
    (deleting deleted fields).map (·.points) = fields.map (·.points) := by
  refine List.ext_getElem? fun i => ?_
  rw [deleting, List.getElem?_map, List.getElem?_mapIdx, List.getElem?_map]
  cases fields[i]? <;> rfl

theorem clozeOutcomes_deleting {answers : GapAnswers}
    (h : Unmatched limits fields (.cloze answers) deleted) :
    clozeOutcomes limits answers (deleting deleted fields) =
      (clozeOutcomes limits answers fields).mapIdx fun i outcome =>
        outcome.renumbered (renumber (deleted i)) := by
  refine List.ext_getElem? fun i => ?_
  simp only [clozeOutcomes, deleting, List.getElem?_mapIdx]
  cases hfield : fields[i]? with
  | none => rfl
  | some field =>
      have hgrade := Field.grade_without (h i field hfield)
      exact congrArg (fun outcome => some { outcome with gap := some (field.gapAt i) }) hgrade

theorem singleOutcomes_deleting {answer : String}
    (h : Unmatched limits fields (.single answer) deleted) :
    (deleting deleted fields).map (·.gradeAlternative limits answer) =
      (fields.map (·.gradeAlternative limits answer)).mapIdx fun i outcome =>
        outcome.renumbered (renumber (deleted i)) := by
  refine List.ext_getElem? fun i => ?_
  simp only [deleting, List.getElem?_map, List.getElem?_mapIdx]
  cases hfield : fields[i]? with
  | none => rfl
  | some field =>
      exact congrArg some (Field.gradeAlternative_without (h i field hfield answer rfl))

theorem ofResponse_deleting (h : Unmatched limits fields response deleted) :
    ofResponse limits (deleting deleted fields) response =
      (ofResponse limits fields response).renumbered fun i => renumber (deleted i) := by
  cases response with
  | cloze answers =>
      unfold ofResponse ofCloze
      dsimp only
      rw [map_points_deleting, clozeOutcomes_deleting h, map_earned_renumbered]
      rfl
  | single answer =>
      unfold ofResponse ofSingle
      dsimp only
      rw [singleOutcomes_deleting h, map_earned_renumbered]
      rfl

/-- An outcome that names a sub-pattern has a best match. -/
theorem exists_best?_of_outcome {i index : Nat} {field : Field} {outcome : Outcome}
    (hfield : fields[i]? = some field)
    (houtcome : (ofResponse limits fields response).outcomes[i]? = some outcome)
    (hindex : index ∈ outcome.subPattern) :
    ∃ text ∈ response.answerFor (some (field.gapAt i)), ∃ b,
      field.best? limits text = some b ∧ b.subPattern = index := by
  cases response with
  | cloze answers =>
      have hgraded : (clozeOutcomes limits answers fields)[i]? = some outcome := houtcome
      rw [clozeOutcomes, List.getElem?_mapIdx, hfield] at hgraded
      obtain rfl := Option.some.inj hgraded
      obtain ⟨b, hb, hindex⟩ := Option.map_eq_some_iff.mp (Option.mem_def.mp hindex)
      obtain ⟨text, htext, hb⟩ := Option.bind_eq_some_iff.mp hb
      exact ⟨text, htext, b, hb, hindex⟩
  | single answer =>
      have hgraded : (fields.map (·.gradeAlternative limits answer))[i]? = some outcome := houtcome
      rw [List.getElem?_map, hfield] at hgraded
      obtain rfl := Option.some.inj hgraded
      obtain ⟨b, hb, hindex⟩ := Option.map_eq_some_iff.mp (Option.mem_def.mp hindex)
      exact ⟨answer, rfl, b, hb, hindex⟩

theorem unaffected_of_unmatched (h : Unmatched limits fields response deleted) :
    Unaffected limits fields response deleted where
  grade := ofResponse_deleting h
  named i field outcome hfield houtcome index hindex := by
    obtain ⟨text, htext, b, hb, rfl⟩ := exists_best?_of_outcome hfield houtcome hindex
    exact Field.getElem?_without hb (h i field hfield text htext)

/-- The refused sub-patterns of the fields. -/
def refused (limits : Limits) (fields : List Field) (i index : Nat) : Bool :=
  fields[i]?.any (·.refuses limits index)

/-- The deleted sub-patterns are worth nothing against the answers that their fields are graded
on. -/
def WorthNothing (limits : Limits) (fields : List Field) (response : Response)
    (deleted : Nat → Nat → Bool) : Prop :=
  ∀ entry ∈ fields.zipIdx, ∀ text ∈ response.answerFor (some (entry.1.gapAt entry.2)),
    ∀ index < entry.1.subPatterns.length, deleted entry.2 index = true →
      (entry.1.evaluate limits index text).value = 0

instance : Decidable (WorthNothing limits fields response deleted) :=
  inferInstanceAs (Decidable (∀ entry ∈ fields.zipIdx,
    ∀ text ∈ response.answerFor (some (entry.1.gapAt entry.2)),
      ∀ index < entry.1.subPatterns.length, deleted entry.2 index = true →
        (entry.1.evaluate limits index text).value = 0))

theorem unmatched_refused : Unmatched limits fields response (refused limits fields) := by
  intro i field hfield text _ index hrefused
  have hrefuses : field.refuses limits index = true := by
    unfold refused at hrefused
    rwa [hfield] at hrefused
  rw [Field.evaluate_of_refuses hrefuses, MatchResult.matched_none]

theorem unmatched_of_worthNothing (h : WorthNothing limits fields response deleted) :
    Unmatched limits fields response deleted := by
  intro i field hfield text htext index hdeleted
  have hmatched : (field.evaluate limits index text).value = 0 := by
    cases hsub : field.subPatterns[index]? with
    | none =>
        rw [Field.evaluate_eq_none hsub]
        rfl
    | some sub =>
        exact h (field, i) (List.mem_zipIdx_iff_getElem?.mpr hfield) text htext index
          (List.getElem?_eq_some_iff.mp hsub).1 hdeleted
  rw [MatchResult.matched, hmatched]
  decide +kernel

/-- Refused sub-patterns make no difference to a grade, and neither do any others that are worth
nothing against the answers that their fields are graded on. -/
theorem unaffected_by_unmatched (limits : Limits) (fields : List Field) (response : Response) :
    Unaffected limits fields response (refused limits fields)
      ∧ ∀ deleted, WorthNothing limits fields response deleted →
        Unaffected limits fields response deleted :=
  ⟨unaffected_of_unmatched unmatched_refused,
    fun _ h => unaffected_of_unmatched (unmatched_of_worthNothing h)⟩

/-- Of the first field, what `ls -la` is worth nothing against goes, with a refused pattern; of the
second, everything behind the pattern that matches `ls` and weighs nothing. -/
theorem unaffected_by_unmatched_listing :
    let fields := [Field.listing, { Field.listing with gap := some 7 }]
    let response := Response.cloze [(1, "ls -la"), (7, "ls")]
    let deleted := fun i index => if i = 0 then index == 0 || index == 4 else decide (2 ≤ index)
    WorthNothing .default fields response deleted
      ∧ Unaffected .default fields response deleted
      ∧ (ofResponse .default (deleting deleted fields) response).outcomes.map (·.subPattern)
        = [some 1, some 0] := by
  intro fields response deleted
  have hnothing : WorthNothing .default fields response deleted := by decide +kernel
  exact ⟨hnothing, (unaffected_by_unmatched .default fields response).2 deleted hnothing,
    by decide +kernel⟩

end Grade

end Gapfill
