import Mathlib.Data.List.TakeWhile
import Gapfill.Text.Blank

/-!
# Runs of characters, and blanks at the ends

A run of characters of one kind ends before the first that is of another
(`takeWhile_run`). A text is trimmed of its blanks up to the first character that
is none, from either side, and this is all that trimming does
(`trimEnd_eq_self_iff`).
-/

namespace Gapfill

/-! ## Runs -/

theorem head_of_dropWhile {p : Char → Bool} {s u : List Char} {c : Char}
    (h : s.dropWhile p = c :: u) : p c = false := by
  have hhead := List.head?_dropWhile_not p s
  rw [h] at hhead
  simpa using hhead

section

variable {p : Char → Bool} {run rest : List Char} (hrun : ∀ c ∈ run, p c = true)

include hrun

theorem takeWhile_run (hrest : ∀ c ∈ rest.head?, p c = false) :
    (run ++ rest).takeWhile p = run := by
  rw [List.takeWhile_append_of_pos hrun]
  cases rest with
  | nil => exact List.append_nil _
  | cons c rest =>
      rw [List.takeWhile_cons_of_neg (by simp [hrest c rfl]), List.append_nil]

theorem dropWhile_run (hrest : ∀ c ∈ rest.head?, p c = false) :
    (run ++ rest).dropWhile p = rest := by
  rw [List.dropWhile_append_of_pos hrun]
  cases rest with
  | nil => rfl
  | cons c rest => exact List.dropWhile_cons_of_neg (by simp [hrest c rfl])

theorem takeWhile_append_cons {c : Char} (hc : p c = false) :
    (run ++ c :: rest).takeWhile p = run :=
  takeWhile_run hrun fun _ hd => Option.some.inj hd ▸ hc

theorem dropWhile_append_cons {c : Char} (hc : p c = false) :
    (run ++ c :: rest).dropWhile p = c :: rest :=
  dropWhile_run hrun fun _ hd => Option.some.inj hd ▸ hc

end

/-! ## Characters that are no blanks -/

theorem isBlank_eq_false_of_printable {c : Char} (hlow : '!'.toNat ≤ c.toNat)
    (hhigh : c.toNat ≤ '~'.toNat) : isBlank c = false := by
  have hall : ∀ n ≤ '~'.toNat, '!'.toNat ≤ n → isBlank (Char.ofNat n) = false := by
    decide +kernel
  rw [← Char.ofNat_toNat c]
  exact hall c.toNat hhigh hlow

theorem isBlank_eq_false_of_isDigit {c : Char} (h : c.isDigit = true) : isBlank c = false := by
  obtain ⟨hlow, hhigh⟩ := Char.isDigit_iff_toNat.mp h
  exact isBlank_eq_false_of_printable (Nat.le_trans (by decide) hlow)
    (Nat.le_trans hhigh (by decide))

theorem isDigit_eq_false_of_isBlank {c : Char} (h : isBlank c = true) : c.isDigit = false := by
  by_contra hdigit
  rw [isBlank_eq_false_of_isDigit (eq_true_of_ne_false hdigit)] at h
  exact Bool.false_ne_true h

/-! ## Blanks at the ends -/

theorem trimStart_append {lead text : List Char} {c : Char} (hlead : ∀ d ∈ lead, isBlank d = true)
    (hc : isBlank c = false) : trimStart (lead ++ c :: text) = c :: text :=
  dropWhile_append_cons hlead hc

theorem trimStart_cons {c : Char} (hc : isBlank c = false) (text : List Char) :
    trimStart (c :: text) = c :: text :=
  trimStart_append (fun _ hd => absurd hd List.not_mem_nil) hc

theorem trimEnd_prefix_self (text : List Char) : trimEnd text <+: text := by
  have h := (List.dropWhile_suffix isBlank (l := text.reverse)).reverse
  rwa [List.reverse_reverse] at h

theorem trimEnd_eq_self {text : List Char} (h : ∀ c ∈ text.getLast?, isBlank c = false) :
    trimEnd text = text := by
  unfold trimEnd
  cases hback : text.reverse with
  | nil => simpa using hback.symm
  | cons c back =>
      have hlast : text.getLast? = some c := by
        rw [List.getLast?_eq_head?_reverse, hback]
        rfl
      rw [List.dropWhile_cons_of_neg (by simp [h c hlast]), ← hback, List.reverse_reverse]

theorem trimEnd_eq_self_iff {text : List Char} :
    trimEnd text = text ↔ ∀ c ∈ text.getLast?, isBlank c = false := by
  refine ⟨fun h c hc => ?_, trimEnd_eq_self⟩
  have hlast : (trimEnd text).getLast? = some c := h.symm ▸ hc
  unfold trimEnd at hlast
  rw [List.getLast?_reverse] at hlast
  have := List.head?_dropWhile_not isBlank text.reverse
  rw [hlast] at this
  simpa using this

/-- Behind a character that is no blank, blanks are dropped from what follows only. -/
theorem trimEnd_append_cons {c : Char} (hc : isBlank c = false) (front text : List Char) :
    trimEnd (front ++ c :: text) = front ++ c :: trimEnd text := by
  unfold trimEnd
  rw [List.reverse_append, List.reverse_cons, List.append_assoc, List.dropWhile_append]
  split
  · rename_i hempty
    rw [List.singleton_append, List.dropWhile_cons_of_neg (by simp [hc]),
      List.isEmpty_iff.mp hempty]
    simp
  · simp

end Gapfill
