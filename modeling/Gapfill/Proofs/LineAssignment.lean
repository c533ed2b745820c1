import Gapfill.Answer

/-!
# One more line

Which lines the expressions take depends on the free lines only: each expression
in turn takes the first of them that it accepts (`assignLines_cons`). A line more
in the answer can change what every later expression takes. But at any time the
free lines of the two runs differ by one line at most (`OneMore`): an expression
that takes this line leaves free what it takes without it. So one more expression
finds a line, or none (`assign_insert`), and the score moves by one at most.
-/

namespace Gapfill

/-! ## Free lines -/

/-- The lines that no expression has taken yet. -/
def freeLines (lines : List (Bool × List Char)) : List (List Char) :=
  (lines.filter fun line => !line.1).map (·.2)

@[simp] theorem freeLines_nil : freeLines [] = [] := rfl

@[simp] theorem freeLines_free (line : List Char) (rest : List (Bool × List Char)) :
    freeLines ((false, line) :: rest) = line :: freeLines rest := rfl

@[simp] theorem freeLines_taken (line : List Char) (rest : List (Bool × List Char)) :
    freeLines ((true, line) :: rest) = freeLines rest := rfl

theorem freeLines_start (lines : List (List Char)) :
    freeLines (lines.map fun line => (false, line)) = lines := by
  induction lines with
  | nil => rfl
  | cons line lines ih => rw [List.map_cons, freeLines_free, ih]

theorem countP_free (lines : List (Bool × List Char)) :
    (lines.countP fun line => !line.1) = (freeLines lines).length := by
  rw [freeLines, List.length_map, List.countP_eq_length_filter]

/-- The first free line that is accepted, taken out of the free lines. -/
theorem firstFree_spec (accepts : List Char → Bool) : ∀ (lines : List (Bool × List Char)) (k : Nat),
    (firstFree accepts k lines = none ∧ (freeLines lines).any accepts = false)
      ∨ ∃ i, firstFree accepts k lines = some (k + i) ∧ (freeLines lines).any accepts = true
        ∧ freeLines (lines.modify i fun line => (true, line.2)) = (freeLines lines).eraseP accepts
  | [], k => Or.inl ⟨rfl, rfl⟩
  | (taken, line) :: rest, k => by
      by_cases htake : taken = false ∧ accepts line = true
      · obtain ⟨rfl, haccepts⟩ := htake
        refine Or.inr ⟨0, ?_, ?_, ?_⟩
        · simp [firstFree, haccepts]
        · simp [haccepts]
        · simp [haccepts]
      · have hskip : firstFree accepts k ((taken, line) :: rest) =
            firstFree accepts (k + 1) rest := by
          rw [firstFree, if_neg]
          simpa using htake
        have hany : (freeLines ((taken, line) :: rest)).any accepts =
            (freeLines rest).any accepts := by
          cases taken <;> simp_all
        rcases firstFree_spec accepts rest (k + 1) with ⟨hnone, hrest⟩ | ⟨i, hsome, hrest, herase⟩
        · exact Or.inl ⟨hskip.trans hnone, hany.trans hrest⟩
        · refine Or.inr ⟨i + 1, ?_, hany.trans hrest, ?_⟩
          · rw [hskip, hsome, Nat.add_assoc, Nat.add_comm 1 i]
          · cases taken <;> simp_all

/-! ## Runs -/

/-- How many of the expressions find a line. -/
def foundLines (expressions : List (List Char → Bool)) (lines : List (Bool × List Char)) : Nat :=
  (assignLines expressions lines).1.countP Option.isSome

/-- The lines that are free afterwards. -/
def linesLeft (expressions : List (List Char → Bool)) (lines : List (Bool × List Char)) :
    List (List Char) :=
  freeLines (assignLines expressions lines).2

/-- The first expression takes the first free line that it accepts, and the others go on with the
lines that are left. -/
theorem assignLines_cons (accepts : List Char → Bool) (rest : List (List Char → Bool))
    (lines : List (Bool × List Char)) :
    ∃ next, freeLines next = (freeLines lines).eraseP accepts
      ∧ foundLines (accepts :: rest) lines =
        ((freeLines lines).any accepts).toNat + foundLines rest next
      ∧ linesLeft (accepts :: rest) lines = linesLeft rest next := by
  rcases firstFree_spec accepts lines 0 with ⟨hnone, hany⟩ | ⟨i, hsome, hany, herase⟩
  · refine ⟨lines, ?_, ?_, ?_⟩
    · have hrefused : ∀ line ∈ freeLines lines, ¬ accepts line = true := by
        simpa using hany
      exact (List.eraseP_of_forall_not hrefused).symm
    · simp [foundLines, assignLines, hnone, hany]
    · simp [linesLeft, assignLines, hnone]
  · refine ⟨_, herase, ?_, ?_⟩
    · simp [foundLines, assignLines, hsome, hany, Nat.add_comm]
    · simp [linesLeft, assignLines, hsome]

/-- Each line is found by an expression or left over. -/
theorem found_add_left (expressions : List (List Char → Bool)) :
    ∀ lines : List (Bool × List Char),
      foundLines expressions lines + (linesLeft expressions lines).length =
        (freeLines lines).length := by
  induction expressions with
  | nil =>
      intro lines
      simp [foundLines, linesLeft, assignLines]
  | cons accepts rest ih =>
      intro lines
      obtain ⟨next, hfree, hfound, hleft⟩ := assignLines_cons accepts rest lines
      have hnext := ih next
      rw [hfree] at hnext
      rw [hfound, hleft]
      cases hany : (freeLines lines).any accepts with
      | false =>
          have hrefused : ∀ line ∈ freeLines lines, ¬ accepts line = true := by
            simpa using hany
          rw [List.eraseP_of_forall_not hrefused] at hnext
          simpa using hnext
      | true =>
          obtain ⟨line, hmem, haccepts⟩ := List.any_eq_true.mp hany
          rw [List.length_eraseP_of_mem hmem haccepts] at hnext
          have hpos := List.length_pos_of_mem hmem
          simp only [Bool.toNat_true]
          omega

theorem found_le (expressions : List (List Char → Bool)) :
    ∀ lines : List (Bool × List Char), foundLines expressions lines ≤ expressions.length := by
  induction expressions with
  | nil =>
      intro lines
      exact Nat.le_refl 0
  | cons accepts rest ih =>
      intro lines
      obtain ⟨next, -, hfound, -⟩ := assignLines_cons accepts rest lines
      have hnext := ih next
      have hone := Bool.toNat_le ((freeLines lines).any accepts)
      rw [hfound, List.length_cons]
      omega

/-! ## Two runs -/

/-- The same free lines, or one more of them in the second list. -/
inductive OneMore : List (List Char) → List (List Char) → Prop where
  | same (free : List (List Char)) : OneMore free free
  | insert (before : List (List Char)) (line : List Char) (after : List (List Char)) :
      OneMore (before ++ after) (before ++ line :: after)

/-- One expression: the lists still differ by one line at most, and they are the same once it has
found a line in the second list only. -/
theorem OneMore.take {free free' : List (List Char)} (h : OneMore free free')
    (accepts : List Char → Bool) :
    (free.any accepts = free'.any accepts ∧ OneMore (free.eraseP accepts) (free'.eraseP accepts))
      ∨ (free.any accepts = false ∧ free'.any accepts = true
        ∧ free'.eraseP accepts = free.eraseP accepts) := by
  cases h with
  | same => exact Or.inl ⟨rfl, .same _⟩
  | insert before line after =>
      by_cases hbefore : ∃ b ∈ before, accepts b = true
      · -- both take the same line, in front of the one that is inserted
        obtain ⟨b, hmem, haccepts⟩ := hbefore
        refine Or.inl ⟨?_, ?_⟩
        · have hany : before.any accepts = true := List.any_eq_true.mpr ⟨b, hmem, haccepts⟩
          simp only [List.any_append, hany, Bool.true_or]
        · rw [List.eraseP_append_left haccepts _ hmem, List.eraseP_append_left haccepts _ hmem]
          exact .insert _ line after
      · have hnone : ∀ b ∈ before, ¬ accepts b = true := fun b hmem haccepts =>
          hbefore ⟨b, hmem, haccepts⟩
        have hany : before.any accepts = false := by simpa using hnone
        rw [List.eraseP_append_right _ hnone, List.eraseP_append_right _ hnone]
        simp only [List.any_append, List.any_cons, hany, Bool.false_or]
        by_cases hline : accepts line = true
        · rw [List.eraseP_cons_of_pos hline, hline]
          by_cases hafter : ∃ a ∈ after, accepts a = true
          · -- the inserted line is taken, and what is taken without it stays
            obtain ⟨b, hmem, hb⟩ := hafter
            obtain ⟨a, u, v, hrefused, haccepts, rfl, herase⟩ := List.exists_of_eraseP hmem hb
            refine Or.inl ⟨?_, ?_⟩
            · simp [haccepts]
            · rw [herase, ← List.append_assoc, ← List.append_assoc]
              exact .insert _ a v
          · have hrefused : ∀ a ∈ after, ¬ accepts a = true := fun a hmem haccepts =>
              hafter ⟨a, hmem, haccepts⟩
            refine Or.inr ⟨?_, ?_, ?_⟩
            · simpa using hrefused
            · rfl
            · rw [List.eraseP_of_forall_not hrefused]
        · refine Or.inl ⟨?_, ?_⟩
          · simp [hline]
          · rw [List.eraseP_cons_of_neg hline]
            exact .insert _ line _

/-- How many expressions find a line is decided by the free lines alone. -/
theorem found_congr {expressions : List (List Char → Bool)} :
    ∀ {lines lines' : List (Bool × List Char)}, freeLines lines = freeLines lines' →
      foundLines expressions lines = foundLines expressions lines' := by
  induction expressions with
  | nil =>
      intro lines lines' _
      rfl
  | cons accepts rest ih =>
      intro lines lines' h
      obtain ⟨next, hfree, hfound, -⟩ := assignLines_cons accepts rest lines
      obtain ⟨next', hfree', hfound', -⟩ := assignLines_cons accepts rest lines'
      have hnext : freeLines next = freeLines next' := by rw [hfree, hfree', h]
      rw [hfound, hfound', h, ih hnext]

/-- All expressions: with one line more, as many of them find a line or one more. -/
theorem OneMore.found (expressions : List (List Char → Bool)) :
    ∀ {lines lines' : List (Bool × List Char)}, OneMore (freeLines lines) (freeLines lines') →
      foundLines expressions lines ≤ foundLines expressions lines'
        ∧ foundLines expressions lines' ≤ foundLines expressions lines + 1 := by
  induction expressions with
  | nil =>
      intro lines lines' _
      exact ⟨Nat.le_refl 0, Nat.zero_le _⟩
  | cons accepts rest ih =>
      intro lines lines' h
      obtain ⟨next, hfree, hfound, -⟩ := assignLines_cons accepts rest lines
      obtain ⟨next', hfree', hfound', -⟩ := assignLines_cons accepts rest lines'
      rw [hfound, hfound']
      rcases h.take accepts with ⟨hany, hmore⟩ | ⟨hshort, hlong, herase⟩
      · rw [← hfree, ← hfree'] at hmore
        obtain ⟨hle, hone⟩ := ih hmore
        rw [hany]
        omega
      · -- from here on the runs go alike
        have hnext : freeLines next' = freeLines next := by rw [hfree, hfree', herase]
        rw [found_congr hnext, hshort, hlong, Bool.toNat_true, Bool.toNat_false]
        omega

/-! ## Assignments -/

theorem assign_matched (expressions : List (List Char → Bool)) (lines : List (List Char)) :
    (assign expressions lines).matched =
      foundLines expressions (lines.map fun line => (false, line)) := rfl

theorem assign_matched_le (expressions : List (List Char → Bool)) (lines : List (List Char)) :
    (assign expressions lines).matched ≤ expressions.length := found_le expressions _

theorem assign_matched_add_wrongLines (expressions : List (List Char → Bool))
    (lines : List (List Char)) :
    (assign expressions lines).matched + (assign expressions lines).wrongLines =
      lines.length := by
  have hsum := found_add_left expressions (lines.map fun line => (false, line))
  rw [freeLines_start] at hsum
  rw [assign_matched, ← hsum]
  exact congrArg _ (countP_free _)

/-- What an assignment is worth: a point for each line that was found, less one for each line more
than there are expressions. -/
theorem assign_score (expressions : List (List Char → Bool)) (lines : List (List Char)) :
    (assign expressions lines).score =
      (assign expressions lines).matched - (lines.length - expressions.length) := by
  have hle := assign_matched_le expressions lines
  have hsum := assign_matched_add_wrongLines expressions lines
  have hscore : (assign expressions lines).score =
      anyOrderScore expressions.length lines.length (assign expressions lines).wrongLines := rfl
  rw [hscore]
  unfold anyOrderScore
  dsimp only
  omega

/-- A line more, wherever it stands in the answer: as many expressions find a line or one more, and
the score moves by one at most; it does not fall as long as lines are missing, and does not rise
once there are enough. -/
theorem assign_insert (expressions : List (List Char → Bool)) (before : List (List Char))
    (line : List Char) (after : List (List Char)) :
    ((assign expressions (before ++ line :: after)).matched =
          (assign expressions (before ++ after)).matched
        ∨ (assign expressions (before ++ line :: after)).matched =
          (assign expressions (before ++ after)).matched + 1)
      ∧ (assign expressions (before ++ line :: after)).score ≤
        (assign expressions (before ++ after)).score + 1
      ∧ (assign expressions (before ++ after)).score ≤
        (assign expressions (before ++ line :: after)).score + 1
      ∧ ((before ++ after).length < expressions.length →
        (assign expressions (before ++ after)).score ≤
          (assign expressions (before ++ line :: after)).score)
      ∧ (expressions.length ≤ (before ++ after).length →
        (assign expressions (before ++ line :: after)).score ≤
          (assign expressions (before ++ after)).score) := by
  have hmore : OneMore (freeLines ((before ++ after).map fun line => (false, line)))
      (freeLines ((before ++ line :: after).map fun line => (false, line))) := by
    rw [freeLines_start, freeLines_start]
    exact .insert before line after
  obtain ⟨hle, hone⟩ := OneMore.found expressions hmore
  rw [← assign_matched, ← assign_matched] at hle hone
  have hlength : (before ++ line :: after).length = (before ++ after).length + 1 := by
    simp only [List.length_append, List.length_cons]
    omega
  rw [assign_score, assign_score, hlength]
  refine ⟨by omega, by omega, by omega, ?_, ?_⟩
  · intro hmissing
    omega
  · intro henough
    omega

end Gapfill
