import Mathlib.Data.List.Infix
import Gapfill.Authored.Blocks
import Gapfill.Proofs.Text.Runs

/-!
# Where a block is cut

A block is cut at the first place where its end can be read, and its expressions
at the boundaries between them. Both delimiters are two closing brackets and a
tail that has no closing bracket (`Tail`). For this reason a delimiter cannot
begin in an expression and reach out of it: behind the expression there are
closing brackets again (`Clear.of_body`). So the cuts are at the places that the
author meant, if no expression holds a delimiter itself
(`cutAtBlockEnd_of_clear`, `bodies_joined`).
-/

namespace Gapfill

/-! ## Delimiters as texts -/

/-- What may follow the closing brackets in a delimiter. -/
abbrev Tail := List Char → Prop

/-- The text begins with closing brackets and a tail. -/
def Tail.Starts (tail : Tail) (s : List Char) : Prop :=
  ∃ m after, s = ']' :: ']' :: (m ++ after) ∧ tail m

/-- There are closing brackets with a tail in the text. -/
def Tail.Within (tail : Tail) (s : List Char) : Prop := ∃ v, v <:+ s ∧ tail.Starts v

/-- A tail is not empty and has no closing bracket. -/
structure Tail.Open (tail : Tail) : Prop where
  ne_nil : ∀ {m}, tail m → m ≠ []
  no_bracket : ∀ {m}, tail m → ']' ∉ m

/-- Blanks, and the brackets before the next expression. -/
def boundaryTail : Tail := fun m =>
  ∃ blanks, m = blanks ++ ['[', '['] ∧ ∀ c ∈ blanks, isGapBlank c = true

/-- Blanks, and letters between slashes. -/
def endTail : Tail := fun m =>
  ∃ blanks letters, m = blanks ++ '/' :: (letters ++ ['/'])
    ∧ (∀ c ∈ blanks, isGapBlank c = true) ∧ ∀ c ∈ letters, isAsciiLetter c = true

theorem not_bracket_of_isGapBlank {blanks : List Char} (h : ∀ c ∈ blanks, isGapBlank c = true) :
    ']' ∉ blanks := fun hmem => absurd (h _ hmem) (by decide)

theorem boundaryTail_open : boundaryTail.Open where
  ne_nil := by
    rintro m ⟨blanks, rfl, -⟩
    simp
  no_bracket := by
    rintro m ⟨blanks, rfl, hblanks⟩
    simp [not_bracket_of_isGapBlank hblanks]

theorem endTail_open : endTail.Open where
  ne_nil := by
    rintro m ⟨blanks, letters, rfl, -, -⟩
    simp
  no_bracket := by
    rintro m ⟨blanks, letters, rfl, hblanks, hletters⟩
    have hletter : ']' ∉ letters := fun hmem => absurd (hletters _ hmem) (by decide)
    simp [not_bracket_of_isGapBlank hblanks, hletter]

/-! ## Readers of delimiters -/

/-- The text between two expressions. -/
def boundaryText (blanks : List Char) : List Char := ']' :: ']' :: (blanks ++ ['[', '['])

/-- The end of a block as it is written. -/
def BlockEnd.text (e : BlockEnd) : List Char :=
  ']' :: ']' :: (e.blanks ++ '/' :: (e.letters ++ ['/']))

/-- Blanks and letters that the end of a block may have. -/
structure BlockEnd.Valid (e : BlockEnd) : Prop where
  blanks : ∀ c ∈ e.blanks, isGapBlank c = true
  letters : ∀ c ∈ e.letters, isAsciiLetter c = true

theorem blockEnd?_text {e : BlockEnd} (he : e.Valid) (after : List Char) :
    blockEnd? (e.text ++ after) = some (e, after) := by
  have htext : e.text ++ after =
      ']' :: ']' :: (e.blanks ++ '/' :: (e.letters ++ '/' :: after)) := by
    simp [BlockEnd.text]
  have hblank : isGapBlank '/' = false := by decide
  have hletter : isAsciiLetter '/' = false := by decide
  rw [htext, blockEnd?]
  simp only [dropWhile_append_cons he.blanks hblank, dropWhile_append_cons he.letters hletter,
    takeWhile_append_cons he.blanks hblank, takeWhile_append_cons he.letters hletter]

theorem starts_of_blockEnd? {s : List Char} (h : blockEnd? s ≠ none) : endTail.Starts s := by
  unfold blockEnd? at h
  split at h
  · rename_i rest
    split at h
    · rename_i rest' hrest
      split at h
      · rename_i after hafter
        have hs : rest.takeWhile isGapBlank
            ++ '/' :: (rest'.takeWhile isAsciiLetter ++ '/' :: after) = rest := by
          rw [← hafter, List.takeWhile_append_dropWhile, ← hrest, List.takeWhile_append_dropWhile]
        refine ⟨rest.takeWhile isGapBlank ++ '/' :: (rest'.takeWhile isAsciiLetter ++ ['/']), after,
          ?_, _, _, rfl, fun c hc => List.mem_takeWhile_imp hc,
          fun c hc => List.mem_takeWhile_imp hc⟩
        exact congrArg (']' :: ']' :: ·) (by simpa using hs.symm)
      · exact absurd rfl h
    · exact absurd rfl h
  · exact absurd rfl h

theorem endTail_starts_iff {s : List Char} : endTail.Starts s ↔ (blockEnd? s).isSome = true := by
  constructor
  · rintro ⟨_, after, rfl, blanks, letters, rfl, hblanks, hletters⟩
    have hread : blockEnd? (BlockEnd.text ⟨blanks, letters⟩ ++ after) =
        some (⟨blanks, letters⟩, after) := blockEnd?_text ⟨hblanks, hletters⟩ after
    exact Option.isSome_of_eq_some hread
  · exact fun h => starts_of_blockEnd? (Option.isSome_iff_ne_none.mp h)

theorem boundaryLength?_text {blanks : List Char} (h : ∀ c ∈ blanks, isGapBlank c = true)
    (after : List Char) :
    boundaryLength? (boundaryText blanks ++ after) = some (boundaryText blanks).length := by
  have htext : boundaryText blanks ++ after = ']' :: ']' :: (blanks ++ '[' :: '[' :: after) := by
    simp [boundaryText]
  have hblank : isGapBlank '[' = false := by decide
  rw [htext, boundaryLength?]
  simp only [dropWhile_append_cons h hblank, takeWhile_append_cons h hblank]
  simp [boundaryText]

theorem starts_of_boundaryLength? {s : List Char} (h : boundaryLength? s ≠ none) :
    boundaryTail.Starts s := by
  unfold boundaryLength? at h
  split at h
  · rename_i rest
    split at h
    · rename_i after hafter
      have hs : rest.takeWhile isGapBlank ++ '[' :: '[' :: after = rest := by
        rw [← hafter, List.takeWhile_append_dropWhile]
      refine ⟨rest.takeWhile isGapBlank ++ ['[', '['], after, ?_, _, rfl,
        fun c hc => List.mem_takeWhile_imp hc⟩
      exact congrArg (']' :: ']' :: ·) (by simpa using hs.symm)
    · exact absurd rfl h
  · exact absurd rfl h

theorem boundaryTail_starts_iff {s : List Char} :
    boundaryTail.Starts s ↔ (boundaryLength? s).isSome = true := by
  constructor
  · rintro ⟨_, after, rfl, blanks, rfl, hblanks⟩
    exact Option.isSome_of_eq_some (boundaryLength?_text hblanks after)
  · exact fun h => starts_of_boundaryLength? (Option.isSome_iff_ne_none.mp h)

/-- Whether a text holds a delimiter is decided by trying to read one at each place. -/
theorem Tail.within_iff {tail : Tail} {p : List Char → Bool}
    (h : ∀ {s}, tail.Starts s ↔ p s = true) {s : List Char} :
    tail.Within s ↔ s.tails.any p = true := by
  simp only [Within, List.any_eq_true, List.mem_tails, h]

instance (s : List Char) : Decidable (endTail.Within s) :=
  decidable_of_iff _ (Tail.within_iff endTail_starts_iff).symm

instance (s : List Char) : Decidable (boundaryTail.Within s) :=
  decidable_of_iff _ (Tail.within_iff boundaryTail_starts_iff).symm

/-! ## Stretches without a delimiter -/

/-- No delimiter begins in the text where `rest` follows it. -/
def Clear (tail : Tail) : List Char → List Char → Prop
  | [], _ => True
  | c :: text, rest => ¬ tail.Starts (c :: (text ++ rest)) ∧ Clear tail text rest

variable {tail : Tail}

theorem Clear.append {rest : List Char} : ∀ {text text' : List Char},
    Clear tail text (text' ++ rest) → Clear tail text' rest → Clear tail (text ++ text') rest
  | [], _, _, h' => h'
  | c :: text, text', h, h' => by
      refine ⟨?_, Clear.append h.2 h'⟩
      change ¬ tail.Starts (c :: ((text ++ text') ++ rest))
      rw [List.append_assoc]
      exact h.1

theorem Clear.of_not_bracket {rest : List Char} : ∀ {text : List Char},
    ']' ∉ text → Clear tail text rest
  | [], _ => trivial
  | c :: text, h => by
      obtain ⟨hc, htext⟩ := not_or.mp (mt List.mem_cons.mpr h)
      refine ⟨?_, Clear.of_not_bracket htext⟩
      rintro ⟨m, after, heq, -⟩
      exact hc (List.cons.inj heq).1.symm

/-- A delimiter that begins in an expression does not reach out of it, since closing brackets
follow. -/
theorem Tail.Starts.of_append (htail : tail.Open) {v rest : List Char} (hne : v ≠ [])
    (h : tail.Starts (v ++ ']' :: ']' :: rest)) : tail.Starts v := by
  obtain ⟨m, after, heq, hm⟩ := h
  rcases List.append_eq_append_iff.mp (show v ++ (']' :: ']' :: rest)
      = (']' :: ']' :: m) ++ after from heq) with ⟨w, hw, hrest⟩ | ⟨w, hw, -⟩
  · cases w with
    | nil => exact ⟨m, [], by simpa using hw.symm, hm⟩
    | cons c w =>
        obtain ⟨hc, hbehind⟩ := List.cons.inj hrest
        obtain ⟨d, v, rfl⟩ := List.exists_cons_of_ne_nil hne
        obtain ⟨-, hinner⟩ := List.cons.inj hw
        cases v with
        | nil =>
            -- only the first bracket of the delimiter is in the expression
            obtain ⟨-, rfl⟩ := List.cons.inj hinner
            obtain ⟨e, n, rfl⟩ := List.exists_cons_of_ne_nil (htail.ne_nil hm)
            have hfirst : e = ']' := (List.cons.inj hbehind).1.symm
            exact absurd (hfirst ▸ List.mem_cons_self) (htail.no_bracket hm)
        | cons e v =>
            have htext : m = v ++ c :: w := (List.cons.inj hinner).2
            have hmem : c ∈ m := by rw [htext]; exact List.mem_append_right v List.mem_cons_self
            exact absurd (hc.symm ▸ hmem) (htail.no_bracket hm)
  · exact ⟨m, w, hw, hm⟩

theorem Clear.of_body (htail : tail.Open) {rest : List Char} : ∀ {text : List Char},
    ¬ tail.Within text → Clear tail text (']' :: ']' :: rest)
  | [], _ => trivial
  | c :: text, h => by
      refine ⟨fun hstarts => ?_, Clear.of_body htail fun hwithin => ?_⟩
      · exact h ⟨c :: text, List.suffix_refl _, hstarts.of_append htail (List.cons_ne_nil _ _)⟩
      · obtain ⟨v, hv, hstarts⟩ := hwithin
        exact h ⟨v, hv.trans (List.suffix_cons c text), hstarts⟩

theorem Clear.of_end : ∀ {text : List Char}, ¬ tail.Within text → Clear tail text []
  | [], _ => trivial
  | c :: text, h => by
      refine ⟨fun hstarts => ?_, Clear.of_end fun hwithin => ?_⟩
      · rw [List.append_nil] at hstarts
        exact h ⟨c :: text, List.suffix_refl _, hstarts⟩
      · obtain ⟨v, hv, hstarts⟩ := hwithin
        exact h ⟨v, hv.trans (List.suffix_cons c text), hstarts⟩

/-! ## Cutting at the end -/

/-- A block is cut where its end stands, if none begins before. -/
theorem cutAtBlockEnd_of_clear {e : BlockEnd} (he : e.Valid) {after : List Char} :
    ∀ {raw : List Char}, Clear endTail raw (e.text ++ after) →
      cutAtBlockEnd (raw ++ (e.text ++ after)) = some (raw, e, after)
  | [], _ => by
      have hend := blockEnd?_text he after
      rw [List.nil_append]
      cases htext : e.text ++ after with
      | nil => simp [BlockEnd.text] at htext
      | cons c rest =>
          rw [htext] at hend
          simp [cutAtBlockEnd, hend]
  | c :: raw, h => by
      have hnone : blockEnd? (c :: (raw ++ (e.text ++ after))) = none :=
        Option.not_isSome_iff_eq_none.mp (mt endTail_starts_iff.mpr h.1)
      rw [List.cons_append, cutAtBlockEnd, hnone]
      simp only [cutAtBlockEnd_of_clear he h.2]

/-! ## Cutting at the boundaries -/

theorem bodiesFrom_of_clear {rest : List Char} : ∀ {body : List Char} {pos start : Nat}
    {current : List Char}, Clear boundaryTail body rest →
      bodiesFrom pos 0 start current (body ++ rest) =
        bodiesFrom (pos + utf8Length body) 0 start (body.reverse ++ current) rest
  | [], pos, start, current, _ => by simp [utf8Length]
  | c :: body, pos, start, current, h => by
      have hnone : boundaryLength? (c :: (body ++ rest)) = none :=
        Option.not_isSome_iff_eq_none.mp (mt boundaryTail_starts_iff.mpr h.1)
      rw [List.cons_append, bodiesFrom, hnone]
      simp only [bodiesFrom_of_clear h.2]
      simp [utf8Length, Nat.add_assoc]

theorem bodiesFrom_skip {rest : List Char} : ∀ {skipped : List Char} {pos : Nat},
    bodiesFrom pos skipped.length pos [] (skipped ++ rest) =
      bodiesFrom (pos + utf8Length skipped) 0 (pos + utf8Length skipped) [] rest
  | [], pos => rfl
  | c :: skipped, pos => by
      rw [List.length_cons, List.cons_append, bodiesFrom, bodiesFrom_skip]
      simp [utf8Length, Nat.add_assoc]

theorem bodiesFrom_boundary {blanks : List Char} (h : ∀ c ∈ blanks, isGapBlank c = true)
    (pos start : Nat) (current rest : List Char) :
    bodiesFrom pos 0 start current (boundaryText blanks ++ rest) =
      (start, current.reverse)
        :: bodiesFrom (pos + utf8Length (boundaryText blanks)) 0
          (pos + utf8Length (boundaryText blanks)) [] rest := by
  obtain ⟨skipped, htext⟩ : ∃ skipped, boundaryText blanks = ']' :: skipped := ⟨_, rfl⟩
  have hlength := boundaryLength?_text h rest
  rw [htext, List.cons_append] at hlength
  rw [htext, List.cons_append, bodiesFrom, hlength]
  simp only [List.length_cons, Nat.add_sub_cancel, bodiesFrom_skip]
  simp [utf8Length, Nat.add_assoc]

/-- Expressions with the boundaries between them: the first, and the others each with the blanks
of the boundary before it. -/
def joinedBodies (body : List Char) : List (List Char × List Char) → List Char
  | [] => body
  | (blanks, next) :: others => body ++ (boundaryText blanks ++ joinedBodies next others)

theorem bodiesFrom_joined : ∀ {others : List (List Char × List Char)} {body : List Char}
    {pos start : Nat}, ¬ boundaryTail.Within body →
      (∀ other ∈ others, (∀ c ∈ other.1, isGapBlank c = true) ∧ ¬ boundaryTail.Within other.2) →
      (bodiesFrom pos 0 start [] (joinedBodies body others)).map (·.2) =
        body :: others.map (·.2)
  | [], body, pos, start, hbody, _ => by
      have hclear : bodiesFrom pos 0 start [] (body ++ [])
          = bodiesFrom (pos + utf8Length body) 0 start (body.reverse ++ []) [] :=
        bodiesFrom_of_clear (Clear.of_end hbody)
      rw [List.append_nil] at hclear
      rw [joinedBodies, hclear]
      simp [bodiesFrom]
  | (blanks, next) :: others, body, pos, start, hbody, h => by
      obtain ⟨⟨hblanks, hnext⟩, hothers⟩ := List.forall_mem_cons.mp h
      have hclear : Clear boundaryTail body
          (boundaryText blanks ++ joinedBodies next others) :=
        Clear.of_body boundaryTail_open hbody
      rw [joinedBodies, bodiesFrom_of_clear hclear, bodiesFrom_boundary hblanks, List.map_cons,
        bodiesFrom_joined hnext hothers]
      simp

/-- Expressions that hold no boundary themselves are cut at the boundaries between them. -/
theorem bodies_joined {body : List Char} {others : List (List Char × List Char)} (pos : Nat)
    (hbody : ¬ boundaryTail.Within body)
    (h : ∀ other ∈ others, (∀ c ∈ other.1, isGapBlank c = true) ∧ ¬ boundaryTail.Within other.2) :
    (bodies pos (joinedBodies body others)).map (·.2) = body :: others.map (·.2) :=
  bodiesFrom_joined hbody h

end Gapfill
