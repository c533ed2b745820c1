import Gapfill.Text.Split

/-!
# Texts that are cut at one character

A text is cut at every separator, so that what stands before one of them and what
stands behind it are cut apart (`splitFrom_append_cons`). A text without a
separator is one piece (`splitFrom_of_notMem`), and no piece has one in it
(`notMem_of_mem_splitFrom`).

The bytes of a text are those of its parts (`utf8Length_append`).
-/

namespace Gapfill

variable {separator : Char}

theorem splitFrom_append_cons (before after : List Char) : ∀ current : List Char,
    splitFrom [separator] 0 current (before ++ separator :: after) =
      splitFrom [separator] 0 current before ++ splitFrom [separator] 0 [] after := by
  induction before with
  | nil => simp [splitFrom]
  | cons c before ih =>
      intro current
      by_cases hc : separator = c
      · subst hc
        simp [splitFrom, ih]
      · simp [splitFrom, hc, ih]

theorem splitFrom_of_notMem {piece : List Char} (h : separator ∉ piece) : ∀ current : List Char,
    splitFrom [separator] 0 current piece = [current.reverse ++ piece] := by
  induction piece with
  | nil => simp [splitFrom]
  | cons c piece ih =>
      intro current
      obtain ⟨hc, hpiece⟩ := not_or.mp (mt List.mem_cons.mpr h)
      simp [splitFrom, hc, ih hpiece]

theorem notMem_of_mem_splitFrom {text piece : List Char} : ∀ {current : List Char},
    separator ∉ current → piece ∈ splitFrom [separator] 0 current text → separator ∉ piece := by
  induction text with
  | nil =>
      intro current hcurrent hpiece
      rw [List.mem_singleton.mp hpiece]
      simpa using hcurrent
  | cons c text ih =>
      intro current hcurrent hpiece
      by_cases hc : separator = c
      · subst hc
        simp only [splitFrom, List.isPrefixOf, beq_self_eq_true, Bool.true_and, if_true,
          List.length_singleton, Nat.sub_self] at hpiece
        rcases List.mem_cons.mp hpiece with rfl | hrest
        · simpa using hcurrent
        · exact ih List.not_mem_nil hrest
      · have hstop : [separator].isPrefixOf (c :: text) = false := by simp [hc, List.isPrefixOf]
        rw [splitFrom, hstop, if_neg Bool.false_ne_true] at hpiece
        exact ih (by simp [hc, hcurrent]) hpiece

/-! ## Bytes -/

@[simp] theorem utf8Length_append (u v : List Char) :
    utf8Length (u ++ v) = utf8Length u + utf8Length v := by
  induction u with
  | nil => simp [utf8Length]
  | cons c u ih => rw [List.cons_append, utf8Length, utf8Length, ih, Nat.add_assoc]

theorem utf8Length_le_append (u v : List Char) : utf8Length u ≤ utf8Length (u ++ v) := by
  rw [utf8Length_append]
  exact Nat.le_add_right _ _

theorem utf8Length_pos {text : List Char} (h : text ≠ []) : 0 < utf8Length text := by
  obtain ⟨c, rest, rfl⟩ := List.exists_cons_of_ne_nil h
  exact Nat.add_pos_left c.utf8Size_pos _

theorem utf8Length_ascii {text : List Char} (h : ∀ c ∈ text, c.toNat ≤ 127) :
    utf8Length text = text.length := by
  induction text with
  | nil => rfl
  | cons c text ih =>
      obtain ⟨hc, htext⟩ := List.forall_mem_cons.mp h
      have hsize : c.utf8Size = 1 :=
        Char.utf8Size_eq_one_iff.mpr (UInt32.le_iff_toNat_le.mpr (show c.toNat ≤ 127 from hc))
      rw [utf8Length, hsize, ih htext, List.length_cons, Nat.add_comm]

end Gapfill
