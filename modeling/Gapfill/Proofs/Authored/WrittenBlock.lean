import Gapfill.Proofs.Authored.CleanBlock
import Gapfill.Proofs.Authored.Delimiters
import Gapfill.Proofs.OptionLetters

/-!
# Blocks as they are written

A `WrittenBlock` has the pieces from which an author composes a block, and
`WrittenBlock.text` puts them together. If no expression holds a delimiter, an
anchor that is bare, or a blank where the block ends, then the text is a clean
block with just these pieces (`WrittenBlock.clean`), whatever comes after it.
Brackets, slashes and blanks elsewhere in an expression do no harm: the end is
found behind the last expression because no place before it can be mistaken for
it (`clear_joined`).
-/

namespace Gapfill

/-! ## No end within the expressions -/

/-- A boundary is not the beginning of an end, and the end does not begin within it. -/
theorem clear_boundaryText {blanks : List Char} (h : ∀ c ∈ blanks, isGapBlank c = true)
    (rest : List Char) : Clear endTail (boundaryText blanks) rest := by
  have hopen : ']' ∉ blanks ++ ['[', '['] := boundaryTail_open.no_bracket ⟨blanks, rfl, h⟩
  refine ⟨?_, ?_, Clear.of_not_bracket hopen⟩
  · intro hstarts
    have hread := endTail_starts_iff.mp hstarts
    have htext : boundaryText blanks ++ rest = ']' :: ']' :: (blanks ++ '[' :: '[' :: rest) := by
      simp [boundaryText]
    change (blockEnd? (boundaryText blanks ++ rest)).isSome = true at hread
    rw [htext, blockEnd?] at hread
    simp [dropWhile_append_cons h (show isGapBlank '[' = false by decide)] at hread
  · rintro ⟨m, after, heq, -⟩
    -- behind the second bracket comes a blank or an opening bracket
    have hsecond : (blanks ++ ['[', '[']) ++ rest = ']' :: (m ++ after) := (List.cons.inj heq).2
    cases blanks with
    | nil => exact absurd (List.cons.inj hsecond).1 (by decide)
    | cons c blanks =>
        obtain rfl : c = ']' := (List.cons.inj hsecond).1
        exact absurd (h ']' List.mem_cons_self) (by decide)

/-- Expressions with their boundaries hold no end of a block before closing brackets. -/
theorem clear_joined {rest : List Char} : ∀ {others : List (List Char × List Char)}
    {body : List Char}, ¬ endTail.Within body →
      (∀ other ∈ others, (∀ c ∈ other.1, isGapBlank c = true) ∧ ¬ endTail.Within other.2) →
      Clear endTail (joinedBodies body others) (']' :: ']' :: rest)
  | [], _, hbody, _ => Clear.of_body endTail_open hbody
  | (blanks, next) :: others, body, hbody, h => by
      obtain ⟨⟨hblanks, hnext⟩, hothers⟩ := List.forall_mem_cons.mp h
      refine Clear.append ?_ (Clear.append (clear_boundaryText hblanks _)
        (clear_joined hnext hothers))
      exact Clear.of_body endTail_open hbody

/-! ## Blanks at the ends -/

/-- The last expression. -/
def lastBody (body : List Char) : List (List Char × List Char) → List Char
  | [] => body
  | (_, next) :: others => lastBody next others

/-- If the last expression does not end with a blank, neither do all together behind a bracket. -/
theorem not_blank_of_getLast?_joined : ∀ {others : List (List Char × List Char)}
    {body : List Char} (front : List Char),
    (∀ c ∈ (lastBody body others).getLast?, isBlank c = false) →
      ∀ c ∈ (front ++ '[' :: joinedBodies body others).getLast?, isBlank c = false
  | [], body, front, h, c, hc => by
      rw [List.getLast?_append, List.getLast?_cons] at hc
      cases hbody : body.getLast? with
      | none =>
          rw [joinedBodies, hbody] at hc
          obtain rfl : '[' = c := by simpa using hc
          decide
      | some d =>
          rw [joinedBodies, hbody] at hc
          obtain rfl : d = c := by simpa using hc
          exact h d hbody
  | (blanks, next) :: others, body, front, h, c, hc => by
      have hlast : ∀ c ∈ (lastBody next others).getLast?, isBlank c = false := h
      refine not_blank_of_getLast?_joined
        (front ++ '[' :: (body ++ ']' :: ']' :: (blanks ++ ['[']))) hlast c ?_
      simpa [joinedBodies, boundaryText] using hc

/-! ## Letters -/

theorem isAsciiLetter_of_isLetter {c : Char} (h : Options.isLetter c = true) :
    isAsciiLetter c = true := by
  unfold isAsciiLetter Char.isAlpha
  by_cases hlower : 'a'.val ≤ c.val ∧ c.val ≤ 'z'.val
  · have hc : c.isLower = true :=
      Bool.and_eq_true_iff.mpr ⟨decide_eq_true hlower.1, decide_eq_true hlower.2⟩
    rw [hc, Bool.or_true]
  · have hupper : c.toUpper = c := dif_neg hlower
    have hall : Options.capitals.all (fun c => c.isUpper || c.isLower) = true := by decide
    rw [Options.isLetter, hupper] at h
    exact List.all_eq_true.mp hall c (List.contains_iff_mem.mp h)

/-- The options after letters, each of which is an option letter. -/
def Options.after (options : Options) (letters : List Char) : Options :=
  letters.foldl (fun options letter => (options.set? letter).getD options) options

theorem Options.set?_of_isLetter {letter : Char} (h : Options.isLetter letter = true)
    (options : Options) : (options.set? letter).isSome = true := by
  rw [set?_eq (isLetter_iff.mp h)]
  rfl

theorem Options.setAll_of_isLetter : ∀ {letters : List Char} (options : Options),
    (∀ c ∈ letters, Options.isLetter c = true) →
      options.setAll letters = .ok (options.after letters)
  | [], _, _ => rfl
  | letter :: letters, options, h => by
      obtain ⟨hletter, hrest⟩ := List.forall_mem_cons.mp h
      obtain ⟨next, hnext⟩ := Option.isSome_iff_exists.mp (set?_of_isLetter hletter options)
      rw [setAll, hnext]
      dsimp only
      rw [setAll_of_isLetter next hrest, after, after, List.foldl_cons, hnext]
      rfl

/-! ## Written blocks -/

/-- An expression that can be written between brackets and read again. -/
structure IsBody (body : List Char) : Prop where
  no_return : '\r' ∉ body
  no_anchor : ¬ HasBareAnchor body
  no_boundary : ¬ boundaryTail.Within body
  no_end : ¬ endTail.Within body

instance (body : List Char) : Decidable (IsBody body) :=
  decidable_of_iff ('\r' ∉ body ∧ ¬ HasBareAnchor body ∧ ¬ boundaryTail.Within body
      ∧ ¬ endTail.Within body)
    ⟨fun ⟨hreturn, hanchor, hboundary, hend⟩ => ⟨hreturn, hanchor, hboundary, hend⟩,
      fun ⟨hreturn, hanchor, hboundary, hend⟩ => ⟨hreturn, hanchor, hboundary, hend⟩⟩

/-- A block as it is written, without what comes before its brackets. -/
structure WrittenBlock where
  body : List Char
  /-- The other expressions, each with the blanks of the boundary before it. -/
  others : List (List Char × List Char)
  ending : BlockEnd
  /-- The blanks behind the end. -/
  trail : List Char

namespace WrittenBlock

/-- All expressions. -/
def bodies (b : WrittenBlock) : List (List Char) := b.body :: b.others.map (·.2)

def text (b : WrittenBlock) : List Char :=
  '[' :: '[' :: (joinedBodies b.body b.others ++ (b.ending.text ++ b.trail))

/-- The sub-pattern that the block stands for. -/
def subPattern (b : WrittenBlock) (weight : Nat) : SubPattern :=
  ⟨b.bodies.map String.ofList, weight, String.ofList b.ending.letters,
    Options.default.after b.ending.letters⟩

/-- What a block may be composed of. -/
structure Valid (b : WrittenBlock) : Prop where
  bodies : ∀ body ∈ b.bodies, IsBody body
  /-- The last expression does not end with a blank. -/
  last : ∀ c ∈ (lastBody b.body b.others).getLast?, isBlank c = false
  gaps : ∀ other ∈ b.others, ∀ c ∈ other.1, isGapBlank c = true
  blanks : ∀ c ∈ b.ending.blanks, isGapBlank c = true
  letters : ∀ c ∈ b.ending.letters, Options.isLetter c = true
  trail : ∀ c ∈ b.trail, isBlank c = true

theorem valid_iff {b : WrittenBlock} : b.Valid ↔
    (∀ body ∈ b.bodies, IsBody body)
      ∧ (lastBody b.body b.others).getLast?.all (!isBlank ·) = true
      ∧ b.others.all (·.1.all isGapBlank) = true ∧ b.ending.blanks.all isGapBlank = true
      ∧ b.ending.letters.all Options.isLetter = true ∧ b.trail.all isBlank = true := by
  simp only [Option.all_eq_true, List.all_eq_true, Bool.not_eq_true']
  constructor
  · rintro ⟨hbodies, hlast, hgaps, hblanks, hletters, htrail⟩
    exact ⟨hbodies, hlast, hgaps, hblanks, hletters, htrail⟩
  · rintro ⟨hbodies, hlast, hgaps, hblanks, hletters, htrail⟩
    exact ⟨hbodies, hlast, hgaps, hblanks, hletters, htrail⟩

instance (b : WrittenBlock) : Decidable b.Valid := decidable_of_iff _ valid_iff.symm

theorem Valid.ending {b : WrittenBlock} (h : b.Valid) : b.ending.Valid :=
  ⟨h.blanks, fun c hc => isAsciiLetter_of_isLetter (h.letters c hc)⟩

theorem Valid.others {b : WrittenBlock} (h : b.Valid) : ∀ other ∈ b.others,
    (∀ c ∈ other.1, isGapBlank c = true) ∧ IsBody other.2 := fun other hother =>
  ⟨h.gaps other hother,
    h.bodies other.2 (List.mem_cons_of_mem _ (List.mem_map_of_mem (f := (·.2)) hother))⟩

theorem Valid.bodyTexts_eq {b : WrittenBlock} (h : b.Valid) :
    bodyTexts (joinedBodies b.body b.others) = b.bodies :=
  bodies_joined 0 (h.bodies b.body List.mem_cons_self).no_boundary fun other hother =>
    ⟨(h.others other hother).1, (h.others other hother).2.no_boundary⟩

/-- A block that is written is clean, with blanks before it and anything after it. -/
def clean {b : WrittenBlock} (h : b.Valid) {lead : List Char}
    (hlead : ∀ c ∈ lead, isBlank c = true) (after : List Char) :
    CleanBlock .default (lead ++ (b.text ++ after)) where
  raw := lead ++ '[' :: '[' :: joinedBodies b.body b.others
  ending := b.ending
  rest := b.trail ++ after
  cut := by
    have htext : lead ++ (b.text ++ after) =
        (lead ++ '[' :: '[' :: joinedBodies b.body b.others)
          ++ (b.ending.text ++ (b.trail ++ after)) := by
      simp [text]
    rw [htext]
    refine cutAtBlockEnd_of_clear h.ending (Clear.append (Clear.of_not_bracket ?_) ?_)
    · exact fun hmem => absurd (hlead _ hmem) (by decide)
    · have hbrackets : Clear endTail ['[', '[']
          (joinedBodies b.body b.others ++ (b.ending.text ++ (b.trail ++ after))) :=
        Clear.of_not_bracket (by decide)
      exact hbrackets.append (clear_joined (h.bodies b.body List.mem_cons_self).no_end
        fun other hother => ⟨(h.others other hother).1, (h.others other hother).2.no_end⟩)
  inner := joinedBodies b.body b.others
  brackets := by
    rw [trim, trimStart_append hlead (by decide)]
    exact trimEnd_eq_self (not_blank_of_getLast?_joined ['['] h.last)
  no_anchor := by
    rw [h.bodyTexts_eq]
    exact fun body hbody => (h.bodies body hbody).no_anchor
  resolved := Options.default.after b.ending.letters
  letters := Options.setAll_of_isLetter .default h.letters

theorem clean_subPattern {b : WrittenBlock} (h : b.Valid) {lead : List Char}
    (hlead : ∀ c ∈ lead, isBlank c = true) (after : List Char) (weight : Nat) :
    (clean h hlead after).subPattern weight = b.subPattern weight := by
  have hbodies : bodyTexts (joinedBodies b.body b.others) = b.bodies := h.bodyTexts_eq
  unfold CleanBlock.subPattern subPattern
  rw [← hbodies]
  rfl

end WrittenBlock

end Gapfill
