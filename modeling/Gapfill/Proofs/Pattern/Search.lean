import Gapfill.Proofs.Pattern.Language

/-!
# The search finds what the language says

`Regex.search` goes over the text once and keeps a list of expressions in
progress. It is tied to `Regex.Matches` in three steps: `nullable` decides the
empty word, `after` is the derivative by one character, and the list holds at
every place exactly what the matches begun so far still have to read.

All three need that no repetition asks for more rounds than it allows: such a
repetition matches nothing, while `nullable` and `after` look only at the lower
bound. Derivatives keep this condition.
-/

namespace Gapfill.Pattern

namespace Regex

/-! ## The empty word -/

theorem nullable_iff {p : Place} : ∀ {r : Regex}, r.Bounded →
    (r.nullable p = true ↔ r.Matches p.before [] p.next)
  | empty, _ => by simp [nullable, Matches]
  | chars set, _ => by simp [nullable, Matches]
  | look l, _ => by simp [nullable, Matches]
  | cat a b, h => by
      simp only [nullable, Bool.and_eq_true, nullable_iff h.1, nullable_iff h.2]
      constructor
      · rintro ⟨ha, hb⟩
        exact ⟨[], [], rfl, ha, hb⟩
      · rintro ⟨u, v, hw, hu, hv⟩
        obtain ⟨rfl, rfl⟩ := List.append_eq_nil_iff.mp hw.symm
        exact ⟨hu, hv⟩
  | alt a b, h => by
      simp only [nullable, Bool.or_eq_true, nullable_iff h.1, nullable_iff h.2, Matches]
  | rep r min max, h => by
      simp only [nullable, Bool.or_eq_true, beq_iff_eq, nullable_iff h.1, Matches]
      constructor
      · rintro (rfl | hr)
        · exact ⟨0, Nat.le_refl 0, fun m _ => Nat.zero_le m, rfl⟩
        · exact ⟨min, Nat.le_refl min, h.2, Language.rounds_nil_of hr min⟩
      · rintro ⟨k, hmin, -, hk⟩
        rcases Language.rounds_nil hk with rfl | hr
        · exact Or.inl (Nat.le_zero.mp hmin)
        · exact Or.inr hr

/-! ## One character -/

theorem followedBy_matches (a b : Regex) {p : Option Char} {w : List Char} {n : Option Char} :
    (followedBy a b).Matches p w n ↔ Language.cat a.Matches b.Matches p w n := by
  cases a with
  | empty =>
      constructor
      · intro h
        exact ⟨[], w, rfl, rfl, h⟩
      · rintro ⟨u, v, rfl, rfl, hv⟩
        exact hv
  | chars | look | cat | alt | rep => rfl

/-- Some expression of the list matches a beginning of the word, and `b` what is left of it. -/
private theorem exists_followedBy {as : List Regex} {b : Regex} {p : Option Char} {w : List Char}
    {n : Option Char} :
    (∃ s ∈ as.map (followedBy · b), s.Matches p w n) ↔
      ∃ u v, w = u ++ v ∧ (∃ a ∈ as, a.Matches p u (charNext v n))
        ∧ b.Matches (charBefore p u) v n := by
  constructor
  · rintro ⟨s, hs, hw⟩
    obtain ⟨a, ha, rfl⟩ := List.mem_map.mp hs
    obtain ⟨u, v, rfl, hu, hv⟩ := (followedBy_matches a b).mp hw
    exact ⟨u, v, rfl, ⟨a, ha, hu⟩, hv⟩
  · rintro ⟨u, v, rfl, ⟨a, ha, hu⟩, hv⟩
    exact ⟨followedBy a b, List.mem_map.mpr ⟨a, ha, rfl⟩,
      (followedBy_matches a b).mpr ⟨u, v, rfl, hu, hv⟩⟩

theorem followedBy_bounded {a b : Regex} (ha : a.Bounded) (hb : b.Bounded) :
    (followedBy a b).Bounded := by
  cases a with
  | empty => exact hb
  | chars | look | cat | alt | rep => exact ⟨ha, hb⟩

/-- What a repetition still has to match after a round that reads something: with rounds that
read nothing at hand, any number of them is still to be had. -/
private def restOf (nullable : Bool) (r : Regex) (min : Nat) (max : Option Nat) : Regex :=
  rep r (if nullable then 0 else min - 1) (max.map (· - 1))

private theorem restOf_bounded {e : Bool} {r : Regex} {min : Nat} {max : Option Nat}
    (h : (rep r min max).Bounded) : (restOf e r min max).Bounded := by
  refine ⟨h.1, fun m hm => ?_⟩
  obtain ⟨most, hmost, rfl⟩ := Option.map_eq_some_iff.mp hm
  have hle := h.2 most hmost
  cases e with
  | false =>
      simp
      omega
  | true => simp

theorem after_bounded {p : Place} {c : Char} : ∀ {r : Regex}, r.Bounded →
    ∀ s ∈ r.after p c, s.Bounded
  | empty, _, s, hs => by simp [after] at hs
  | look _, _, s, hs => by simp [after] at hs
  | chars set, _, s, hs => by
      simp only [after] at hs
      split at hs
      · rw [List.mem_singleton.mp hs]
        trivial
      · simp at hs
  | alt a b, h, s, hs => by
      rcases List.mem_append.mp hs with hs | hs
      · exact after_bounded h.1 s hs
      · exact after_bounded h.2 s hs
  | cat a b, h, s, hs => by
      simp only [after, List.mem_append, List.mem_map] at hs
      rcases hs with ⟨a', ha', rfl⟩ | hs
      · exact followedBy_bounded (after_bounded h.1 a' ha') h.2
      · split at hs
        · exact after_bounded h.2 s hs
        · simp at hs
  | rep r min max, h, s, hs => by
      simp only [after] at hs
      split at hs
      · simp at hs
      · obtain ⟨r', hr', rfl⟩ := List.mem_map.mp hs
        exact followedBy_bounded (after_bounded h.1 r' hr') (restOf_bounded h)

/-- The first character of a sequence is read by its first expression, unless that reads nothing. -/
private theorem cat_cons_iff {a b : Regex} {p : Place} {c : Char} (hp : p.next = some c)
    (ha : a.Bounded) {w : List Char} {n : Option Char} :
    (cat a b).Matches p.before (c :: w) n ↔
      (∃ u v, w = u ++ v ∧ a.Matches p.before (c :: u) (charNext v n)
        ∧ b.Matches (charBefore (some c) u) v n)
      ∨ a.nullable p = true ∧ b.Matches p.before (c :: w) n := by
  rw [nullable_iff ha, hp]
  constructor
  · rintro ⟨u, v, hw, hu, hv⟩
    cases u with
    | nil =>
        obtain rfl : c :: w = v := hw
        exact Or.inr ⟨hu, hv⟩
    | cons d u =>
        obtain ⟨rfl, rfl⟩ := List.cons.inj hw
        exact Or.inl ⟨u, v, rfl, hu, hv⟩
  · rintro (⟨u, v, rfl, hu, hv⟩ | ⟨hempty, hw⟩)
    · exact ⟨c :: u, v, rfl, hu, hv⟩
    · exact ⟨[], c :: w, rfl, hempty, hw⟩

/-- The first round of a repetition that reads something, and what it leaves. -/
private theorem rep_cons_iff {r : Regex} {min : Nat} {max : Option Nat} {p : Place} {c : Char}
    (hp : p.next = some c) (h : (rep r min max).Bounded) {w : List Char} {n : Option Char} :
    (rep r min max).Matches p.before (c :: w) n ↔
      max ≠ some 0 ∧ ∃ u v, w = u ++ v ∧ r.Matches p.before (c :: u) (charNext v n)
        ∧ (restOf (r.nullable p) r min max).Matches (charBefore (some c) u) v n := by
  have hnull : r.nullable p = true ↔ r.Matches p.before [] (some c) := by
    rw [nullable_iff h.1, hp]
  constructor
  · rintro ⟨k, hmin, hmax, hk⟩
    obtain ⟨j, u, v, hj, rfl, hempty, hu, hv⟩ := Language.rounds_cons hk
    have hmax0 : max ≠ some 0 := fun h0 => by have := hmax 0 h0; omega
    refine ⟨hmax0, u, v, rfl, hu, j, ?_, ?_, hv⟩
    · -- without empty rounds in front, `j` counts all the rounds but the first
      by_cases hn : r.nullable p = true
      · simp [hn]
      · have : k = j + 1 := by
          by_cases hkj : k = j + 1
          · exact hkj
          · exact absurd (hnull.mpr (hempty hkj)) hn
        simp only [if_neg hn]
        omega
    · intro m hm
      obtain ⟨most, hmost, rfl⟩ := Option.map_eq_some_iff.mp hm
      have := hmax most hmost
      omega
  · rintro ⟨hmax0, u, v, rfl, hu, j, hmin, hmax, hv⟩
    have hround : Language.rounds r.Matches (j + 1) p.before (c :: (u ++ v)) n :=
      ⟨c :: u, v, rfl, hu, hv⟩
    have hmost : ∀ m, max = some m → j + 1 ≤ m := by
      intro m hm
      have hj := hmax (m - 1) (by simp [hm])
      have : m ≠ 0 := fun h0 => hmax0 (by rw [hm, h0])
      omega
    by_cases hn : r.nullable p = true
    · -- empty rounds in front make up what the lower bound still asks for
      refine ⟨(min - (j + 1)) + (j + 1), by omega, fun m hm => ?_,
        Language.rounds_add_nil (hnull.mp hn) hround _⟩
      have := hmost m hm
      have := h.2 m hm
      omega
    · simp only [if_neg hn] at hmin
      exact ⟨j + 1, by omega, hmost, hround⟩

/-- What may follow after one character is what remains of the words that begin with it. -/
theorem after_iff {p : Place} {c : Char} (hp : p.next = some c) : ∀ {r : Regex}, r.Bounded →
    ∀ {w : List Char} {n : Option Char},
      (∃ s ∈ r.after p c, s.Matches (some c) w n) ↔ r.Matches p.before (c :: w) n
  | empty, _, w, n => by simp [after, Matches]
  | look l, _, w, n => by simp [after, Matches]
  | chars set, _, w, n => by
      by_cases hc : set.mem c = true
      · simp only [after, if_pos hc, List.mem_singleton, exists_eq_left, Matches]
        constructor
        · rintro rfl
          exact ⟨c, rfl, hc⟩
        · rintro ⟨d, hd, -⟩
          exact (List.cons.inj hd).2
      · simp only [after, if_neg hc, List.not_mem_nil, false_and, exists_false, Matches,
          false_iff]
        rintro ⟨d, hd, hmem⟩
        obtain ⟨rfl, -⟩ := List.cons.inj hd
        exact hc hmem
  | alt a b, h, w, n => by
      simp only [after, List.mem_append, or_and_right, exists_or, Matches, after_iff hp h.1,
        after_iff hp h.2]
  | cat a b, h, w, n => by
      simp only [after, List.mem_append, or_and_right, exists_or]
      rw [exists_followedBy, cat_cons_iff hp h.1]
      refine or_congr ?_ ?_
      · simp only [after_iff hp h.1]
      · by_cases hn : a.nullable p = true
        · rw [if_pos hn, after_iff hp h.2]
          exact (and_iff_right hn).symm
        · simp [hn]
  | rep r min max, h, w, n => by
      rw [rep_cons_iff hp h, after]
      by_cases hmax : max = some 0
      · simp [hmax]
      · rw [if_neg (by simpa using hmax)]
        simp only [ne_eq, hmax, not_false_eq_true, true_and, ← after_iff hp h.1]
        exact exists_followedBy

/-! ## The whole text -/

theorem mem_addNew {r s : Regex} {rs : List Regex} : s ∈ addNew r rs ↔ s = r ∨ s ∈ rs := by
  unfold addNew
  split
  · rename_i h
    constructor
    · exact Or.inr
    · rintro (rfl | hs)
      · exact List.contains_iff_mem.mp h
      · exact hs
  · exact List.mem_cons

theorem mem_foldr_addNew {s : Regex} {acc : List Regex} : ∀ {new : List Regex},
    s ∈ new.foldr addNew acc ↔ s ∈ new ∨ s ∈ acc
  | [] => by simp
  | r :: new => by
      rw [List.foldr_cons, mem_addNew, mem_foldr_addNew, List.mem_cons, or_assoc]

theorem mem_afterAny {p : Place} {c : Char} {s : Regex} : ∀ {rs : List Regex},
    s ∈ afterAny p c rs ↔ ∃ r ∈ rs, s ∈ r.after p c
  | [] => by simp [afterAny]
  | r :: rs => by
      rw [afterAny, List.foldr_cons, mem_foldr_addNew, ← afterAny, mem_afterAny]
      simp only [List.mem_cons, exists_eq_or_imp]

/-- Some expression of the list matches a beginning of the text. -/
private def Progress (rs : List Regex) (b : Option Char) (text : List Char) : Prop :=
  ∃ q ∈ rs, ∃ w v, text = w ++ v ∧ q.Matches b w (charNext v none)

/-- The expression matches some part of the text, before which `b` stands. -/
def MatchesWithin (r : Regex) (b : Option Char) (text : List Char) : Prop :=
  ∃ u w v, text = u ++ w ++ v ∧ r.Matches (charBefore b u) w (charNext v none)

private theorem progress_nil {rs : List Regex} {b : Option Char} :
    Progress rs b [] ↔ ∃ q ∈ rs, q.Matches b [] none := by
  constructor
  · rintro ⟨q, hq, w, v, hw, hm⟩
    obtain ⟨rfl, rfl⟩ := List.append_eq_nil_iff.mp hw.symm
    exact ⟨q, hq, hm⟩
  · rintro ⟨q, hq, hm⟩
    exact ⟨q, hq, [], [], rfl, hm⟩

private theorem progress_cons {rs : List Regex} (hrs : ∀ q ∈ rs, q.Bounded) {b : Option Char}
    {c : Char} {text : List Char} :
    Progress rs b (c :: text) ↔
      (∃ q ∈ rs, q.Matches b [] (some c)) ∨ Progress (afterAny ⟨b, some c⟩ c rs) (some c) text := by
  constructor
  · rintro ⟨q, hq, w, v, hw, hm⟩
    cases w with
    | nil =>
        obtain rfl : c :: text = v := hw
        exact Or.inl ⟨q, hq, hm⟩
    | cons d w =>
        obtain ⟨rfl, rfl⟩ := List.cons.inj hw
        obtain ⟨s, hs, hsw⟩ := (after_iff (p := ⟨b, some c⟩) rfl (hrs q hq)).mpr hm
        exact Or.inr ⟨s, mem_afterAny.mpr ⟨q, hq, hs⟩, w, v, rfl, hsw⟩
  · rintro (⟨q, hq, hm⟩ | ⟨s, hs, w, v, rfl, hsw⟩)
    · exact ⟨q, hq, [], c :: text, rfl, hm⟩
    · obtain ⟨q, hq, hqs⟩ := mem_afterAny.mp hs
      exact ⟨q, hq, c :: w, v, rfl, (after_iff (p := ⟨b, some c⟩) rfl (hrs q hq)).mp ⟨s, hqs, hsw⟩⟩

private theorem progress_addNew {r : Regex} {rs : List Regex} {b : Option Char}
    {text : List Char} :
    Progress (addNew r rs) b text ↔ Progress [r] b text ∨ Progress rs b text := by
  simp only [Progress, mem_addNew, or_and_right, exists_or, List.mem_singleton, exists_eq_left]

private theorem matchesWithin_nil {r : Regex} {b : Option Char} :
    r.MatchesWithin b [] ↔ Progress [r] b [] := by
  constructor
  · rintro ⟨u, w, v, hw, hm⟩
    obtain ⟨huw, rfl⟩ := List.append_eq_nil_iff.mp hw.symm
    obtain ⟨rfl, rfl⟩ := List.append_eq_nil_iff.mp huw
    exact ⟨r, List.mem_singleton_self r, [], [], rfl, hm⟩
  · rintro ⟨q, hq, w, v, hw, hm⟩
    rw [List.mem_singleton.mp hq] at hm
    exact ⟨[], w, v, hw, hm⟩

private theorem matchesWithin_cons {r : Regex} {b : Option Char} {c : Char} {text : List Char} :
    r.MatchesWithin b (c :: text) ↔
      Progress [r] b (c :: text) ∨ r.MatchesWithin (some c) text := by
  constructor
  · rintro ⟨u, w, v, hw, hm⟩
    cases u with
    | nil => exact Or.inl ⟨r, List.mem_singleton_self r, w, v, hw, hm⟩
    | cons d u =>
        obtain ⟨rfl, rfl⟩ := List.cons.inj hw
        exact Or.inr ⟨u, w, v, rfl, hm⟩
  · rintro (⟨q, hq, w, v, hw, hm⟩ | ⟨u, w, v, rfl, hm⟩)
    · rw [List.mem_singleton.mp hq] at hm
      exact ⟨[], w, v, hw, hm⟩
    · exact ⟨c :: u, w, v, rfl, hm⟩

/-- The invariant of the search, from any place on: one of the matches in progress comes to an
end, or the expression matches a part of what is left. -/
theorem searchFrom_iff {r : Regex} (hr : r.Bounded) : ∀ {text : List Char} {b : Option Char}
    {inProgress : List Regex}, (∀ q ∈ inProgress, q.Bounded) →
      (searchFrom r b inProgress text = true ↔
        Progress inProgress b text ∨ r.MatchesWithin b text)
  | [], b, inProgress, hin => by
      have hall : ∀ q ∈ addNew r inProgress, q.Bounded := fun q hq =>
        (mem_addNew.mp hq).elim (fun h => h ▸ hr) (hin q)
      have hany : (addNew r inProgress).any (nullable ⟨b, none⟩) = true ↔
          Progress (addNew r inProgress) b [] := by
        rw [progress_nil, List.any_eq_true]
        exact exists_congr fun q => and_congr_right fun hq =>
          nullable_iff (p := ⟨b, none⟩) (hall q hq)
      rw [searchFrom, hany, progress_addNew, matchesWithin_nil, or_comm]
  | c :: text, b, inProgress, hin => by
      have hall : ∀ q ∈ addNew r inProgress, q.Bounded := fun q hq =>
        (mem_addNew.mp hq).elim (fun h => h ▸ hr) (hin q)
      have hany : (addNew r inProgress).any (nullable ⟨b, some c⟩) = true ↔
          ∃ q ∈ addNew r inProgress, q.Matches b [] (some c) := by
        rw [List.any_eq_true]
        exact exists_congr fun q => and_congr_right fun hq =>
          nullable_iff (p := ⟨b, some c⟩) (hall q hq)
      have hnext : ∀ q ∈ afterAny ⟨b, some c⟩ c (addNew r inProgress), q.Bounded := by
        intro q hq
        obtain ⟨s, hs, hqs⟩ := mem_afterAny.mp hq
        exact after_bounded (hall s hs) q hqs
      rw [searchFrom, Bool.or_eq_true, hany, searchFrom_iff hr hnext, ← or_assoc,
        ← progress_cons hall, progress_addNew, matchesWithin_cons]
      constructor
      · rintro ((h | h) | h)
        · exact Or.inr (Or.inl h)
        · exact Or.inl h
        · exact Or.inr (Or.inr h)
      · rintro (h | h | h)
        · exact Or.inl (Or.inr h)
        · exact Or.inl (Or.inl h)
        · exact Or.inr h

/-- The search finds a match exactly if the expression matches some part of the text. -/
theorem search_iff {r : Regex} (hr : r.Bounded) {text : List Char} :
    r.search text = true ↔ r.MatchesWithin none text := by
  rw [search, searchFrom_iff hr (fun q hq => absurd hq (List.not_mem_nil))]
  constructor
  · rintro (⟨q, hq, -⟩ | h)
    · exact absurd hq List.not_mem_nil
    · exact h
  · exact Or.inr

/-- A text in which an expression is found has the wider ones too. -/
theorem search_widens {r r' : Regex} (h : r.Widens r') (hr : r.Bounded) (hr' : r'.Bounded)
    {text : List Char} (hs : r.search text = true) : r'.search text = true := by
  obtain ⟨u, w, v, htext, hw⟩ := (search_iff hr).mp hs
  exact (search_iff hr').mpr ⟨u, w, v, htext, h hw⟩

/-- A sequence between the two anchors of the text is matched by the whole text or not at all. -/
theorem search_between_iff (rs : List Regex)
    (hr : (catOf (.look .textStart :: (rs ++ [.look .textEnd]))).Bounded) {text : List Char} :
    (catOf (.look .textStart :: (rs ++ [.look .textEnd]))).search text = true ↔
      MatchesAll rs none text none := by
  rw [search_iff hr]
  constructor
  · rintro ⟨u, w, v, rfl, hw⟩
    obtain ⟨s, m, rfl, ⟨rfl, hstart⟩, hm⟩ := (catOf_matches _).mp hw
    obtain ⟨x, y, rfl, hx, e, z, rfl, ⟨rfl, hend⟩, rfl⟩ := (matchesAll_append rs _).mp hm
    obtain ⟨rfl, -⟩ := charBefore_eq_none (Option.isNone_iff_eq_none.mp hstart)
    obtain ⟨rfl, -⟩ := charNext_eq_none (Option.isNone_iff_eq_none.mp hend)
    simpa using hx
  · intro h
    refine ⟨[], text, [], by simp, (catOf_matches _).mpr ⟨[], text, rfl, ⟨rfl, rfl⟩, ?_⟩⟩
    exact (matchesAll_append rs _).mpr ⟨text, [], by simp, h, [], [], rfl, ⟨rfl, rfl⟩, rfl⟩

/-- The same for one expression. -/
theorem search_anchored_iff {r : Regex} (hr : r.Bounded) {text : List Char} :
    (catOf [.look .textStart, r, .look .textEnd]).search text = true ↔
      r.Matches none text none :=
  (search_between_iff [r] ⟨trivial, hr, trivial⟩).trans (catOf_matches [r]).symm

end Regex

end Gapfill.Pattern
