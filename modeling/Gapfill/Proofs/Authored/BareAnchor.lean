import Gapfill.Authored.Blocks

/-!
# Bare anchors

A `$` or `^` is bare if no backslash escapes it. Backslashes pair up from the
left, so what counts is how many of them stand right before the sign: an even
number leaves it bare. The search keeps one bit, whether the next character is
escaped, and this bit is the parity (`escapedAfter_iff`); hence it comes back
with nothing exactly if no anchor is bare (`bareAnchor?_eq_none_iff`), and else
with the place of the first one (`bareAnchor?_first`).
-/

namespace Gapfill

/-- How many backslashes the text ends with. -/
def trailingBackslashes (u : List Char) : Nat := (u.reverse.takeWhile (· == '\\')).length

/-- Some `$` or `^` has an even number of backslashes right before it. -/
def HasBareAnchor (body : List Char) : Prop :=
  ∃ u c v, body = u ++ c :: v ∧ (c = '$' ∨ c = '^') ∧ trailingBackslashes u % 2 = 0

theorem trailingBackslashes_backslash (u : List Char) :
    trailingBackslashes (u ++ ['\\']) = trailingBackslashes u + 1 := by
  simp [trailingBackslashes]

theorem trailingBackslashes_of_ne {c : Char} (hc : c ≠ '\\') (u : List Char) :
    trailingBackslashes (u ++ [c]) = 0 := by
  simp [trailingBackslashes, hc]

/-- Whether the character behind the text is escaped. `escaped` says so of the first one. -/
def escapedAfter (escaped : Bool) (u : List Char) : Bool :=
  u.foldl (fun escaped c => !escaped && c == '\\') escaped

theorem escapedAfter_iff (u : List Char) :
    escapedAfter false u = true ↔ trailingBackslashes u % 2 = 1 := by
  rw [← List.reverse_reverse u]
  induction u.reverse with
  | nil => simp [escapedAfter, trailingBackslashes]
  | cons c u ih =>
      have hstep : escapedAfter false (u.reverse ++ [c]) =
          (!escapedAfter false u.reverse && c == '\\') := by
        simp [escapedAfter]
      rw [List.reverse_cons, hstep]
      by_cases hc : c = '\\'
      · subst hc
        rw [trailingBackslashes_backslash]
        cases hbit : escapedAfter false u.reverse <;> simp [hbit] at ih ⊢ <;> omega
      · simp [hc, trailingBackslashes_of_ne hc]

theorem bareAnchorFrom_eq_none_iff : ∀ {escaped : Bool} {pos : Nat} {body : List Char},
    bareAnchorFrom escaped pos body = none ↔
      ∀ u c v, body = u ++ c :: v → c = '$' ∨ c = '^' → escapedAfter escaped u = true
  | _, _, [] => by simp [bareAnchorFrom]
  | escaped, pos, d :: rest => by
      have hsplit : (∀ u c v, d :: rest = u ++ c :: v → c = '$' ∨ c = '^' →
            escapedAfter escaped u = true) ↔
          ((d = '$' ∨ d = '^' → escaped = true)
            ∧ ∀ u c v, rest = u ++ c :: v → c = '$' ∨ c = '^' →
              escapedAfter (!escaped && d == '\\') u = true) := by
        constructor
        · intro h
          refine ⟨h [] d rest rfl, fun u c v hrest hc => ?_⟩
          exact h (d :: u) c v (by rw [hrest, List.cons_append]) hc
        · rintro ⟨hhead, hrest⟩ u c v heq hc
          cases u with
          | nil =>
              obtain ⟨rfl, -⟩ := List.cons.inj heq
              exact hhead hc
          | cons e u =>
              obtain ⟨rfl, htail⟩ := List.cons.inj heq
              exact hrest u c v htail hc
      rw [hsplit]
      cases escaped with
      | true =>
          rw [bareAnchorFrom, bareAnchorFrom_eq_none_iff]
          simp
      | false =>
          rw [bareAnchorFrom]
          by_cases hd : d = '$' ∨ d = '^'
          · rw [if_pos (by simpa using hd)]
            simp [hd]
          · rw [if_neg (by simpa using hd), bareAnchorFrom_eq_none_iff]
            simp [hd]

/-- The search finds nothing exactly if there is no bare anchor. -/
theorem bareAnchor?_eq_none_iff {body : List Char} :
    bareAnchor? body = none ↔ ¬ HasBareAnchor body := by
  unfold bareAnchor?
  rw [bareAnchorFrom_eq_none_iff]
  constructor
  · rintro h ⟨u, c, v, hbody, hc, heven⟩
    have hodd := (escapedAfter_iff u).mp (h u c v hbody hc)
    omega
  · intro h u c v hbody hc
    refine (escapedAfter_iff u).mpr (Nat.mod_two_ne_zero.mp fun heven => ?_)
    exact h ⟨u, c, v, hbody, hc, heven⟩

instance (body : List Char) : Decidable (HasBareAnchor body) :=
  decidable_of_iff (bareAnchor? body ≠ none)
    (not_congr bareAnchor?_eq_none_iff |>.trans Classical.not_not)

/-! ## The first one -/

/-- The search goes on behind a text in which it finds nothing. -/
theorem bareAnchorFrom_append (escaped : Bool) (pos : Nat) (u v : List Char) :
    bareAnchorFrom escaped pos (u ++ v) = (bareAnchorFrom escaped pos u).or
      (bareAnchorFrom (escapedAfter escaped u) (pos + utf8Length u) v) := by
  fun_induction bareAnchorFrom escaped pos u with
  | case1 escaped pos => rfl
  | case2 pos c u ih =>
      rw [List.cons_append, bareAnchorFrom, ih, utf8Length, Nat.add_assoc]
      rfl
  | case3 pos c u hc =>
      rw [List.cons_append, bareAnchorFrom, if_pos hc]
      rfl
  | case4 pos c u hc ih =>
      rw [List.cons_append, bareAnchorFrom, if_neg hc, ih, utf8Length, Nat.add_assoc]
      rfl

/-- The first bare `$` or `^` of the text comes right behind `before`. -/
structure FirstBareAnchor (body before : List Char) : Prop where
  anchor : ∃ c after, body = before ++ c :: after ∧ (c = '$' ∨ c = '^')
  bare : trailingBackslashes before % 2 = 0
  first : ¬ HasBareAnchor before

theorem exists_before_of_bareAnchorFrom {escaped : Bool} {pos n : Nat} {body : List Char}
    (h : bareAnchorFrom escaped pos body = some n) :
    ∃ before c after, body = before ++ c :: after ∧ (c = '$' ∨ c = '^')
      ∧ escapedAfter escaped before = false ∧ ∀ pos, bareAnchorFrom escaped pos before = none := by
  fun_induction bareAnchorFrom escaped pos body with
  | case1 => simp at h
  | case2 pos d body ih =>
      obtain ⟨before, c, after, rfl, hc, hbit, hnone⟩ := ih h
      exact ⟨d :: before, c, after, rfl, hc, hbit, fun pos => hnone (pos + d.utf8Size)⟩
  | case3 pos d body hd =>
      exact ⟨[], d, body, rfl, by simpa using hd, rfl, fun _ => rfl⟩
  | case4 pos d body hd ih =>
      obtain ⟨before, c, after, rfl, hc, hbit, hnone⟩ := ih h
      refine ⟨d :: before, c, after, rfl, hc, hbit, fun pos => ?_⟩
      rw [bareAnchorFrom, if_neg hd, hnone]

theorem FirstBareAnchor.bareAnchor?_eq {body before : List Char}
    (h : FirstBareAnchor body before) : bareAnchor? body = some (utf8Length before) := by
  obtain ⟨c, after, rfl, hc⟩ := h.anchor
  have hnone : bareAnchorFrom false 0 before = none := bareAnchor?_eq_none_iff.mpr h.first
  have hbit : escapedAfter false before = false := by
    rw [← Bool.not_eq_true, escapedAfter_iff, h.bare]
    decide
  rw [bareAnchor?, bareAnchorFrom_append, hnone, hbit, bareAnchorFrom, if_pos (by simpa using hc)]
  simp

/-- The search gives how many bytes come before the first `$` or `^` with an even number of
backslashes right before it, and nothing exactly if there is no such character. -/
theorem bareAnchor?_first (body : List Char) :
    (∀ n, bareAnchor? body = some n ↔ ∃ before, FirstBareAnchor body before ∧ n = utf8Length before)
      ∧ (bareAnchor? body = none ↔ ¬ HasBareAnchor body) := by
  refine ⟨fun n => ⟨fun h => ?_, ?_⟩, bareAnchor?_eq_none_iff⟩
  · obtain ⟨before, c, after, hbody, hc, hbit, hnone⟩ := exists_before_of_bareAnchorFrom h
    have hbare : trailingBackslashes before % 2 = 0 := by
      have hodd := mt (escapedAfter_iff before).mpr (Bool.eq_false_iff.mp hbit)
      omega
    have hfirst : FirstBareAnchor body before :=
      ⟨⟨c, after, hbody, hc⟩, hbare, bareAnchor?_eq_none_iff.mp (hnone 0)⟩
    exact ⟨before, hfirst, Option.some.inj (h.symm.trans hfirst.bareAnchor?_eq)⟩
  · rintro ⟨before, hfirst, rfl⟩
    exact hfirst.bareAnchor?_eq

-- Two bytes for the letter, and two backslashes that escape one another.
example : bareAnchor? "é\\\\$".toList = some 4 := by decide

end Gapfill
