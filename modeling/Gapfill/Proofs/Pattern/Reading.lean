import Gapfill.Proofs.Pattern.ItemLookahead

/-!
# Runs of the reader

`Reader.Reads` is the run of the reader, item after item, without the fuel: from
a reader in front of a text to a reader in front of what is left of it. Since a
step is a function, runs from one place are beginnings of one another
(`Reads.linear`), and a pattern denotes at most one expression (`Denotes`). What
`Reader.step_swap` says of one item holds of runs (`Reads.swap`).

Groups that are open around a text are looked at only by a parenthesis that
closes one of them: with more groups around it the reader takes the same steps,
up to a parenthesis that closes what was never opened (`Reads.of_under`).
-/

namespace Gapfill.Pattern

namespace Reader

/-- From the first reader in front of a text, item after item, to the second in front of the
rest. -/
inductive Reads : Reader → List Char → Reader → List Char → Prop where
  | refl (r : Reader) (s : List Char) : Reads r s r s
  | step {r r₁ r' : Reader} {s u v z : List Char} {c : Char} (hskip : r.flags.skip s = c :: u)
      (hstep : r.step c u = some (r₁, v)) (hrest : Reads r₁ v r' z) : Reads r s r' z

namespace Reads

variable {r r₁ r₂ r' : Reader} {s s₁ s₂ u v z t t' : List Char}

theorem single {c : Char} (hskip : r.flags.skip s = c :: u) (hstep : r.step c u = some (r', z)) :
    Reads r s r' z := .step hskip hstep (.refl _ _)

theorem trans (h : Reads r s r₁ u) (h' : Reads r₁ u r' z) : Reads r s r' z := by
  induction h with
  | refl => exact h'
  | step hskip hstep _ ih => exact .step hskip hstep (ih h')

theorem suffix (h : Reads r s r' z) : z <:+ s := by
  induction h with
  | refl => exact List.suffix_refl _
  | step hskip hstep _ ih =>
      exact ih.trans ((step_suffix hstep).trans (Flags.tail_suffix_of_skip hskip))

/-- Of two runs from one place, one is the beginning of the other. -/
theorem linear (h₁ : Reads r s r₁ s₁) (h₂ : Reads r s r₂ s₂) :
    Reads r₁ s₁ r₂ s₂ ∨ Reads r₂ s₂ r₁ s₁ := by
  induction h₁ with
  | refl => exact Or.inl h₂
  | step hskip hstep hrest ih =>
      cases h₂ with
      | refl => exact Or.inr (.step hskip hstep hrest)
      | step hskip' hstep' hrest' =>
          obtain ⟨rfl, rfl⟩ := List.cons.inj (hskip.symm.trans hskip')
          obtain ⟨rfl, rfl⟩ := Prod.mk.inj (Option.some.inj (hstep.symm.trans hstep'))
          exact ih hrest'

/-- A run goes on to where another run from the same place comes, as long as that is not behind
it. -/
theorem ahead (h₁ : Reads r s r₁ s₁) (h₂ : Reads r s r₂ s₂)
    (hlen : (r₂.flags.skip s₂).length ≤ s₁.length) : Reads r₁ s₁ r₂ s₂ := by
  rcases h₁.linear h₂ with h | h
  · exact h
  · cases h with
    | refl => exact .refl _ _
    | step hskip hstep hrest =>
        have hrest := hrest.suffix.trans (step_suffix hstep)
        rw [hskip] at hlen
        exact absurd hrest.length_le (Nat.not_le_of_lt hlen)

/-- A run goes on to where another run comes to the end. -/
theorem to_end (h₁ : Reads r s r₁ s₁) (h₂ : Reads r s r₂ s₂) (hend : r₂.flags.skip s₂ = []) :
    Reads r₁ s₁ r₂ s₂ := h₁.ahead h₂ (by rw [hend]; exact Nat.zero_le _)

theorem bounded (h : Reads r s r' z) (hr : r.Bounded) : r'.Bounded := by
  induction h with
  | refl => exact hr
  | step _ hstep _ ih => exact ih (hr.step hstep)

/-- At the end of the text the run is over. -/
theorem eq_of_end (h : Reads r s r' z) (hend : r.flags.skip s = []) : r' = r ∧ z = s := by
  cases h with
  | refl => exact ⟨rfl, rfl⟩
  | step hskip => simp [hend] at hskip

end Reads

/-- The run of the reader with its fuel comes to the end of the text, if it comes anywhere. -/
theorem run_iff : ∀ {n : Nat} {r r' : Reader} {s : List Char}, s.length < n →
    (run n r s = some r' ↔ ∃ z, Reads r s r' z ∧ r'.flags.skip z = [])
  | 0, _, _, _, hn => absurd hn (Nat.not_lt_zero _)
  | n + 1, r, r', s, hn => by
      rw [run]
      split
      · rename_i hskip
        constructor
        · intro h
          obtain rfl := Option.some.inj h
          exact ⟨s, .refl _ _, hskip⟩
        · rintro ⟨z, h, -⟩
          rw [(h.eq_of_end hskip).1]
      · rename_i c u hskip
        split
        · rename_i r₁ v hstep
          have hlen := ((r.flags.skip_suffix s).length_le)
          have hlen' := (step_suffix hstep).length_le
          rw [hskip, List.length_cons] at hlen
          rw [run_iff (by omega)]
          constructor
          · rintro ⟨z, h, hz⟩
            exact ⟨z, .step hskip hstep h, hz⟩
          · rintro ⟨z, h, hz⟩
            cases h with
            | refl => simp [hz] at hskip
            | step hskip' hstep' h =>
                obtain ⟨rfl, rfl⟩ := List.cons.inj (hskip.symm.trans hskip')
                obtain ⟨rfl, rfl⟩ := Prod.mk.inj (Option.some.inj (hstep.symm.trans hstep'))
                exact ⟨z, h, hz⟩
        · rename_i hstep
          constructor
          · intro h
            simp at h
          · rintro ⟨z, h, hz⟩
            cases h with
            | refl => simp [hz] at hskip
            | step hskip' hstep' h =>
                obtain ⟨rfl, rfl⟩ := List.cons.inj (hskip.symm.trans hskip')
                simp [hstep'] at hstep

/-- The reader in front of a pattern. -/
def start (ignoreCase dotNewline : Bool) : Reader :=
  ⟨.new, [], .initial ignoreCase dotNewline, []⟩

end Reader

/-! ## What a pattern denotes -/

/-- The text is read to its end, all groups are closed, and `whole` is what was read. -/
def Denotes (ignoreCase dotNewline : Bool) (text : List Char) (whole : Piece) : Prop :=
  ∃ r z, Reader.Reads (.start ignoreCase dotNewline) text r z ∧ r.flags.skip z = []
    ∧ r.outer = [] ∧ r.frame.total = whole

variable {ignoreCase dotNewline : Bool} {text : List Char}

theorem Denotes.unique {whole whole' : Piece} (h : Denotes ignoreCase dotNewline text whole)
    (h' : Denotes ignoreCase dotNewline text whole') : whole = whole' := by
  obtain ⟨r, z, hreads, hend, -, rfl⟩ := h
  obtain ⟨r', z', hreads', hend', -, rfl⟩ := h'
  rw [((hreads.to_end hreads' hend').eq_of_end hend).1]

theorem Reader.start_bounded (ignoreCase dotNewline : Bool) :
    (Reader.start ignoreCase dotNewline).Bounded :=
  ⟨⟨by simp [Reader.start, Frame.new], by simp [Reader.start, Frame.new]⟩,
    by simp [Reader.start]⟩

/-- What a pattern denotes asks nowhere for more rounds than it allows. -/
theorem Denotes.bounded {whole : Piece} (h : Denotes ignoreCase dotNewline text whole) :
    whole.regex.Bounded := by
  obtain ⟨r, z, hreads, -, -, rfl⟩ := h
  exact (hreads.bounded (Reader.start_bounded ignoreCase dotNewline)).frame.total

theorem parse_iff {regex : Regex} :
    parse ignoreCase dotNewline text = some regex ↔
      ∃ whole, Denotes ignoreCase dotNewline text whole ∧ whole.depth ≤ maxDepth
        ∧ whole.regex = regex := by
  have hrun : ∀ r', Reader.run (text.length + 1) (.start ignoreCase dotNewline) text = some r' ↔
      ∃ z, Reader.Reads (.start ignoreCase dotNewline) text r' z ∧ r'.flags.skip z = [] :=
    fun _ => Reader.run_iff (Nat.lt_succ_self text.length)
  unfold parse
  rw [show (⟨.new, [], .initial ignoreCase dotNewline, []⟩ : Reader)
    = .start ignoreCase dotNewline from rfl]
  split
  · rename_i r hr
    obtain ⟨z, hreads, hend⟩ := (hrun r).mp hr
    dsimp only
    constructor
    · intro h
      split at h
      · rename_i hok
        obtain ⟨houter, hdepth⟩ := Bool.and_eq_true_iff.mp hok
        exact ⟨r.frame.total, ⟨r, z, hreads, hend, List.isEmpty_iff.mp houter, rfl⟩,
          of_decide_eq_true hdepth, Option.some.inj h⟩
      · simp at h
    · rintro ⟨whole, ⟨r', z', hreads', hend', houter, rfl⟩, hdepth, rfl⟩
      obtain rfl := Option.some.inj (hr.symm.trans ((hrun r').mpr ⟨z', hreads', hend'⟩))
      rw [if_pos (Bool.and_eq_true_iff.mpr ⟨List.isEmpty_iff.mpr houter, decide_eq_true hdepth⟩)]
  · rename_i hr
    constructor
    · intro h
      simp at h
    · rintro ⟨whole, ⟨r', z', hreads', hend', -⟩, -⟩
      simp [(hrun r').mpr ⟨z', hreads', hend'⟩] at hr

/-! ## Runs in front of a common beginning -/

namespace Reader

/-- A brace that is read has more behind it than what it leaves. -/
private theorem step_brace_lt {r r' : Reader} {u z : List Char}
    (h : r.step '\x7b' u = some (r', z)) : z.length < (r.flags.skip u).length := by
  obtain ⟨m, hm, -⟩ := step_eq_some.mp h
  obtain ⟨⟨min, max, v⟩, hbounds, heq⟩ := Option.map_eq_some_iff.mp hm
  obtain ⟨-, rfl⟩ := Prod.mk.inj heq
  exact Nat.lt_of_lt_of_le
    (Nat.lt_succ_of_le ((dropLazy_suffix _).trans (r.flags.skip_suffix v)).length_le)
    (readBounds_suffix hbounds).length_le

/-- A run in front of one of two texts with a common beginning is a run in front of the other, as
long as it leaves all of `t`. -/
theorem Reads.swap {t t' : List Char} {r r' : Reader} {s z : List Char} (h : Reads r s r' z) :
    (∀ r₁ s₁, Reads r s r₁ s₁ → Behind r₁.flags t t') →
      ∀ {s' : List Char}, Swap t t' s s' → t.length ≤ z.length →
      (∀ u, z = '\x7b' :: u → t.length < (r'.flags.skip u).length) →
      ∃ z', Reads r s' r' z' ∧ Swap t t' z z' := by
  induction h with
  | refl r s =>
      intro _ s' hs _ _
      exact ⟨s', .refl _ _, hs⟩
  | step hskip hstep hrest ih =>
      rename_i r r₁ r' s u v z c
      intro hbehind s' hs hz hpeek
      have hb := hbehind r s (.refl r s)
      have hlen := hrest.suffix.length_le
      have hlen' := (step_suffix hstep).length_le
      obtain ⟨u', hskip', hu⟩ := Flags.skip_swap_cons hb hs hskip (by omega)
      have hpeek' : ∀ x, v = '\x7b' :: x → t.length < (r₁.flags.skip x).length := by
        intro x hx
        cases hrest with
        | refl => exact hpeek x hx
        | step hskip₁ hstep₁ hrest₁ =>
            rw [hx, Flags.skip_of_counts (by decide)] at hskip₁
            obtain ⟨rfl, rfl⟩ := List.cons.inj hskip₁
            have := step_brace_lt hstep₁
            have := hrest₁.suffix.length_le
            omega
      obtain ⟨v', hstep', hv⟩ := step_swap hb hu hstep (by omega) hpeek'
      obtain ⟨z', hrest', hz'⟩ :=
        ih (fun r₂ s₂ h => hbehind r₂ s₂ (.step hskip hstep h)) hv hz hpeek
      exact ⟨z', .step hskip' hstep' hrest', hz'⟩

/-- The same where what comes next behind the run is no brace. -/
theorem Reads.swap_of_next {t t' : List Char} {r r' : Reader} {s s' z : List Char}
    (h : Reads r s r' z) (hb : ∀ f, Behind f t t') (hs : Swap t t' s s')
    (hz : t.length ≤ z.length) (hnext : ∀ u, r'.flags.skip z ≠ '\x7b' :: u) :
    ∃ z', Reads r s' r' z' ∧ Swap t t' z z' := by
  refine h.swap (fun _ _ _ => hb _) hs hz ?_
  rintro u rfl
  exact absurd (Flags.skip_of_counts (by decide) u) (hnext u)

/-- A run that stops in front of `t` stops in front of `t'` in the other text. -/
theorem Reads.swap_end {t t' : List Char} {r r' : Reader} {s s' z : List Char}
    (h : Reads r s r' z) (hb : ∀ f, Behind f t t') (hs : Swap t t' s s')
    (hend : r'.flags.skip z = t) (hbrace : ∀ u, t ≠ '\x7b' :: u) :
    ∃ z', Reads r s' r' z' ∧ r'.flags.skip z' = t' := by
  obtain ⟨z', hreads, hz'⟩ := h.swap_of_next hb hs
    (by rw [← hend]; exact (r'.flags.skip_suffix z).length_le) (by rwa [hend])
  have hskip := Flags.skip_swap (hb r'.flags) hz' (Nat.le_of_eq (by rw [hend]))
  rw [hend] at hskip
  exact ⟨z', hreads, hskip.eq_of_self⟩

/-! ## Runs inside of groups -/

/-- With more groups around it a reader does what it does without them, until a parenthesis closes
a group that it has not opened. -/
theorem Reads.of_under {around : List (Flags × Frame)} {R r₁ : Reader} {s z : List Char}
    (h : Reads R s r₁ z) : ∀ {r : Reader}, R = r.under around →
      (∃ r', r₁ = r'.under around ∧ Reads r s r' z)
        ∨ ∃ r' u v, Reads r s r' u ∧ r'.flags.skip u = ')' :: v ∧ r'.outer = []
          ∧ Reads (r'.under around) u r₁ z := by
  induction h with
  | refl R s =>
      rintro r rfl
      exact Or.inl ⟨r, rfl, .refl _ _⟩
  | step hskip hstep hrest ih =>
      rename_i R R₁ r₁ s u v z c
      rintro r rfl
      by_cases hclose : c = ')' ∧ r.outer = []
      · obtain ⟨rfl, houter⟩ := hclose
        exact Or.inr ⟨r, s, u, .refl _ _, hskip, houter, .step hskip hstep hrest⟩
      · obtain ⟨m, hm, hmove⟩ := step_eq_some.mp hstep
        have hgroup : m = .closeGroup → r.outer ≠ [] := by
          rintro rfl houter
          exact hclose ⟨nextMove_closeGroup hm, houter⟩
        rw [move?_under hgroup] at hmove
        obtain ⟨r₂, hr₂, rfl⟩ := Option.map_eq_some_iff.mp hmove
        have hstep₂ : r.step c u = some (r₂, v) := step_eq_some.mpr ⟨m, hm, hr₂⟩
        rcases ih rfl with ⟨r', rfl, h'⟩ | ⟨r', w, x, h', hskip', houter, hrest'⟩
        · exact Or.inl ⟨r', rfl, .step hskip hstep₂ h'⟩
        · exact Or.inr ⟨r', w, x, .step hskip hstep₂ h', hskip', houter, hrest'⟩

end Reader

end Gapfill.Pattern
