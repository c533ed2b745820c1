import Gapfill.Proofs.Pattern.Reading

/-!
# A pattern pasted into a group

A pattern that is put between `(?:` and `)` is read there as it is read alone, and
the reader goes on behind the group as if nothing had been opened
(`SetsNothing.reads_group`). What comes behind the pattern does not change how it is
read (`Reads.append`), nor do the groups around it (`Reads.under`).

Two things would be seen from outside: switches that are set in the pattern, and
names that are taken. `SetsNothing` says that there are none. It is enough that no
parenthesis of the text, even within a set, begins more than a plain group
(`PlainGroups.setsNothing`).
-/

namespace Gapfill.Pattern

namespace Reader

variable {r r' : Reader} {s t z : List Char}

/-- A run to the end of a text is a run over the same text with more behind it, if what is behind
begins as a group or a set ends or begins. -/
theorem Reads.append (h : Reads r s r' [])
    (hflags : ∀ r₁ s₁, Reads r s r₁ s₁ → r₁.flags.skipBlanks = false)
    (ht : ∀ c u, t = c :: u → c = ')' ∨ c = '[') : Reads r (s ++ t) r' t := by
  have hswap : Swap [] t s (s ++ t) := by
    have hend : Swap [] t [] t := .tail
    simpa using hend.append s
  obtain ⟨z, hz, hend⟩ := h.swap (fun r₁ s₁ h₁ => ⟨by simp [hflags r₁ s₁ h₁], ht⟩) hswap
    (Nat.le_refl 0) (by simp)
  rwa [hend.eq_of_self] at hz

/-- A run is one within more groups too. -/
theorem Reads.under (h : Reads r s r' z) (around : List (Flags × Frame)) :
    Reads (r.under around) s (r'.under around) z := by
  induction h with
  | refl r s => exact .refl _ s
  | step hskip hstep hrest ih =>
      rename_i r r₁ r' s u v z c
      obtain ⟨m, hm, hmove⟩ := step_eq_some.mp hstep
      have hgroup : m = .closeGroup → r.outer ≠ [] := by
        rintro rfl houter
        simp [move?, closeGroup?, houter] at hmove
      have hmove' : (r.under around).move? m = some (r₁.under around) := by
        rw [move?_under hgroup, hmove]
        rfl
      exact .step hskip (step_eq_some.mpr ⟨m, hm, hmove'⟩) ih

end Reader

/-! ## Patterns without switches and names -/

/-- While the text is read, the switches stay as they are at its start and no name is taken. -/
structure SetsNothing (ignoreCase dotNewline : Bool) (text : List Char) : Prop where
  flags : ∀ r s, Reader.Reads (.start ignoreCase dotNewline) text r s →
    r.flags = .initial ignoreCase dotNewline
  names : ∀ r s, Reader.Reads (.start ignoreCase dotNewline) text r s → r.names = []

variable {ignoreCase dotNewline : Bool} {text : List Char} {whole : Piece}

/-- In a group without a name, the pattern is one more item of the sequence around the group. -/
theorem SetsNothing.reads_group (h : SetsNothing ignoreCase dotNewline text)
    (hdenotes : Denotes ignoreCase dotNewline text whole) {r : Reader}
    (hflags : r.flags = .initial ignoreCase dotNewline) (hnames : r.names = []) (t : List Char) :
    Reader.Reads r ("(?:".toList ++ (text ++ ')' :: t))
      (r.push (.piece ⟨whole.regex, whole.depth + 1⟩)) t := by
  obtain ⟨frame, outer, flags, names⟩ := r
  obtain rfl : flags = .initial ignoreCase dotNewline := hflags
  obtain rfl : names = [] := hnames
  obtain ⟨inner, z, hreads, hend, houter, rfl⟩ := hdenotes
  have hinner := h.flags inner z hreads
  obtain rfl : z = [] := by rwa [hinner] at hend
  have hopen : Reader.Reads ⟨frame, outer, .initial ignoreCase dotNewline, []⟩
      ("(?:".toList ++ (text ++ ')' :: t))
      ((Reader.start ignoreCase dotNewline).under
        ((.initial ignoreCase dotNewline, frame) :: outer)) (text ++ ')' :: t) :=
    .single (u := '?' :: ':' :: (text ++ ')' :: t)) rfl rfl
  have hbody := (hreads.append (t := ')' :: t) (fun r₁ s₁ h₁ => by rw [h.flags r₁ s₁ h₁]; rfl)
    fun c u hc => Or.inl (List.cons.inj hc).1.symm).under
      ((.initial ignoreCase dotNewline, frame) :: outer)
  have hclose : (inner.under ((.initial ignoreCase dotNewline, frame) :: outer)).step ')' t =
      some ((Reader.mk frame outer (.initial ignoreCase dotNewline) []).push
        (.piece ⟨inner.frame.total.regex, inner.frame.total.depth + 1⟩), t) := by
    simp [Reader.step, Reader.closeGroup?, Reader.under, Reader.push, houter,
      h.names inner [] hreads]
  have hskip : inner.flags.skip (')' :: t) = ')' :: t := by
    rw [hinner]
    rfl
  exact hopen.trans (hbody.trans (.single hskip hclose))

/-! ## Plain groups -/

/-- A parenthesis with a question mark behind it begins `(?:`. -/
def PlainGroups (text : List Char) : Prop :=
  ∀ v, '(' :: '?' :: v <:+ text → ∃ w, v = ':' :: w

/-- The move leaves the switches and the names as they are. -/
def Move.Keeps (f : Flags) (names : List (List Char)) : Move → Prop
  | push _ flags => flags = f
  | openGroup flags names' => flags = f ∧ names' = names
  | _ => True

theorem nextMove_keeps {f : Flags} {names : List (List Char)} {c : Char} {u z : List Char}
    {m : Move} (hf : f.skipBlanks = false)
    (hgroup : c = '(' → ∀ v, u = '?' :: v → ∃ w, v = ':' :: w)
    (h : nextMove f names c u = some (m, z)) : m.Keeps f names := by
  have hmap : ∀ {α : Type} {a? : Option α} {next : α → Move × List Char},
      (∀ a, (next a).1.Keeps f names) → a?.map next = some (m, z) → m.Keeps f names := by
    intro α a? next hnext h
    obtain ⟨a, -, heq⟩ := Option.map_eq_some_iff.mp h
    exact (Prod.mk.inj heq).1 ▸ hnext a
  unfold nextMove at h
  split at h
  case h_1 =>
      by_cases hsign : ∃ v, u = '?' :: v
      · obtain ⟨v, rfl⟩ := hsign
        obtain ⟨w, rfl⟩ := hgroup rfl v rfl
        have hskip : f.skip ('?' :: ':' :: w) = '?' :: ':' :: w := by simp [Flags.skip, hf]
        simp only [Move.group, hskip] at h
        obtain ⟨rfl, -⟩ := Prod.mk.inj (Option.some.inj h)
        exact ⟨rfl, rfl⟩
      · have hskip : f.skip u = u := by simp [Flags.skip, hf]
        unfold Move.group at h
        rw [hskip] at h
        split at h
        case h_6 =>
            obtain ⟨rfl, -⟩ := Prod.mk.inj (Option.some.inj h)
            exact ⟨rfl, rfl⟩
        all_goals exact absurd ⟨_, rfl⟩ hsign
  case h_4 | h_8 | h_9 =>
      refine hmap ?_ h
      intro _
      first | rfl | trivial
  case h_12 =>
      split at h
      · refine hmap ?_ h
        intro _
        rfl
      · simp at h
  all_goals
    obtain ⟨rfl, -⟩ := Prod.mk.inj (Option.some.inj h)
    first | rfl | trivial

theorem Reader.move?_keeps {r r' : Reader} {m : Move} (h : m.Keeps r.flags r.names)
    (houter : ∀ g ∈ r.outer, g.1 = r.flags) (hmove : r.move? m = some r') :
    r'.flags = r.flags ∧ r'.names = r.names ∧ ∀ g ∈ r'.outer, g.1 = r.flags := by
  cases m with
  | push item flags =>
      obtain rfl := Option.some.inj hmove
      exact ⟨h, rfl, houter⟩
  | openGroup flags names =>
      obtain rfl := Option.some.inj hmove
      exact ⟨h.1, h.2, List.forall_mem_cons.mpr ⟨rfl, houter⟩⟩
  | closeGroup =>
      cases hgroups : r.outer with
      | nil => simp [move?, closeGroup?, hgroups] at hmove
      | cons g outer =>
          rw [hgroups] at houter
          simp only [move?, closeGroup?, hgroups] at hmove
          obtain rfl := Option.some.inj hmove
          obtain ⟨hg, houter⟩ := List.forall_mem_cons.mp houter
          exact ⟨hg, rfl, houter⟩
  | branch =>
      obtain rfl := Option.some.inj hmove
      exact ⟨rfl, rfl, houter⟩
  | repeatLast min max =>
      obtain ⟨frame, -, rfl⟩ := Option.map_eq_some_iff.mp hmove
      exact ⟨rfl, rfl, houter⟩

/-- What a run keeps if all groups are plain: the switches, those to go back to behind a group,
and the names. -/
theorem PlainGroups.reads {r r' : Reader} {s z : List Char} (h : Reader.Reads r s r' z) :
    PlainGroups s → r.flags.skipBlanks = false → (∀ g ∈ r.outer, g.1 = r.flags) →
      r'.flags = r.flags ∧ r'.names = r.names := by
  induction h with
  | refl r s => exact fun _ _ _ => ⟨rfl, rfl⟩
  | step hskip hstep hrest ih =>
      rename_i r r₁ r' s u v z c
      intro hplain hf houter
      obtain ⟨m, hm, hmove⟩ := Reader.step_eq_some.mp hstep
      have hsuffix : c :: u <:+ s := hskip ▸ r.flags.skip_suffix s
      have hrest : v <:+ s :=
        (Reader.step_suffix hstep).trans (Flags.tail_suffix_of_skip hskip)
      have hkeeps : m.Keeps r.flags r.names := by
        refine nextMove_keeps hf ?_ hm
        rintro rfl w rfl
        exact hplain w hsuffix
      obtain ⟨hflags, hnames, houter'⟩ := Reader.move?_keeps hkeeps houter hmove
      obtain ⟨hflags', hnames'⟩ := ih (fun w hw => hplain w (hw.trans hrest)) (hflags ▸ hf)
        fun g hg => (houter' g hg).trans hflags.symm
      exact ⟨hflags'.trans hflags, hnames'.trans hnames⟩

/-- A text all groups of which are plain sets no switches and takes no names. -/
theorem PlainGroups.setsNothing (h : PlainGroups text) (ignoreCase dotNewline : Bool) :
    SetsNothing ignoreCase dotNewline text where
  flags _ _ hreads := (h.reads hreads rfl (by simp [Reader.start])).1
  names _ _ hreads := (h.reads hreads rfl (by simp [Reader.start])).2

end Gapfill.Pattern
