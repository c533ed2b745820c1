import Gapfill.Proofs.Anchoring

/-!
# Patterns that are just text

A text without the characters that mean something in a pattern is read character
by character, and each stands for itself; a slash, which the pattern has behind a
backslash, does so too (`Reader.reads_literal`). Between the anchors such a
pattern is found in this one text only (`search_wrapPiece_literal`).
-/

namespace Gapfill.Pattern

/-- A character that has no meaning in a pattern. -/
def IsPlain (c : Char) : Prop :=
  c ∉ ['\\', '.', '+', '*', '?', '(', ')', '|', '[', ']', '\x7b', '\x7d', '^', '$']

instance (c : Char) : Decidable (IsPlain c) := inferInstanceAs (Decidable (¬ _))

/-! ## Reading -/

/-- The item for a character that stands for itself. -/
def literalItem (f : Flags) (c : Char) : Item := .piece (.flat (literal f c))

namespace Reader

theorem step_plain {c : Char} (h : IsPlain c) (r : Reader) (rest : List Char) :
    r.step c rest = some (r.push (literalItem r.flags c), rest) := by
  unfold step
  dsimp only
  split <;> first | rfl | exact absurd h (by decide)

/-- A slash behind a backslash is a slash. -/
theorem step_slash (r : Reader) (rest : List Char) :
    r.step '\\' ('/' :: rest) = some (r.push (literalItem r.flags '/'), rest) := by
  have hescape : readEscape r.flags ('/' :: rest) = some (.literal '/', rest) := by
    simp [readEscape, show isEscapable '/' = true by decide]
  simp only [step, hescape, escapeRegex?]
  rfl

/-- The reader with items for all characters of a text. -/
def pushLiterals (r : Reader) (text : List Char) : Reader :=
  text.foldl (fun r c => r.push (literalItem r.flags c)) r

theorem reads_literal : ∀ {text : List Char} {r : Reader}, (∀ c ∈ text, IsPlain c) →
    r.flags.skipBlanks = false → ∀ (rest : List Char),
      Reads r (SpacingRule.escapeSlashes false text ++ rest) (r.pushLiterals text) rest
  | [], r, _, _, rest => .refl r rest
  | c :: text, r, h, hflags, rest => by
      obtain ⟨hc, htext⟩ := List.forall_mem_cons.mp h
      have hskip : ∀ s, r.flags.skip s = s := fun s => by simp [Flags.skip, hflags]
      have hrest : Reads (r.push (literalItem r.flags c))
          (SpacingRule.escapeSlashes false text ++ rest)
          ((r.push (literalItem r.flags c)).pushLiterals text) rest :=
        reads_literal htext (r := r.push (literalItem r.flags c)) hflags rest
      by_cases hslash : c = '/'
      · subst hslash
        exact .step (hskip _) (step_slash r _) hrest
      · have hback : (c == '\\') = false := by
          refine beq_false_of_ne ?_
          rintro rfl
          exact absurd hc (by decide)
        have htext : SpacingRule.escapeSlashes false (c :: text) =
            c :: SpacingRule.escapeSlashes false text := by
          rw [SpacingRule.escapeSlashes, if_neg hslash, hback]
        rw [htext]
        exact .step (hskip _) (step_plain hc r _) hrest

theorem pushLiterals_eq (text : List Char) (r : Reader) : r.pushLiterals text =
    { r with frame :=
        ⟨r.frame.branches, (text.map (literalItem r.flags)).reverse ++ r.frame.items⟩ } := by
  induction text generalizing r with
  | nil => rfl
  | cons c text ih =>
      have hrest := ih (r.push (literalItem r.flags c))
      simpa [pushLiterals, push, Frame.push] using hrest

end Reader

/-- All characters of a text, each standing for itself. -/
def literalRegex (f : Flags) (text : List Char) : Regex := .catOf (text.map (literal f))

/-- What the reader keeps of the text is not nested. -/
theorem total_literals (f : Flags) (text : List Char) :
    ∃ depth ≤ 1, (Frame.mk [] (text.map (literalItem f)).reverse).total =
      ⟨literalRegex f text, depth⟩ := by
  have hregexes : ((text.map (literalItem f)).reverse.reverse.filterMap Item.regex?) =
      text.map (literal f) := by
    rw [List.reverse_reverse, List.filterMap_map]
    exact congrFun List.filterMap_eq_map' text
  have hdepths : ∀ items : List Item, (∀ item ∈ items, item.depth = 0) →
      (items.map Item.depth).foldl max 0 = 0 := by
    intro items hitems
    induction items with
    | nil => rfl
    | cons item items ih =>
        obtain ⟨hitem, hitems⟩ := List.forall_mem_cons.mp hitems
        rw [List.map_cons, List.foldl_cons, hitem]
        exact ih hitems
  have hflat : ∀ item ∈ (text.map (literalItem f)).reverse, item.depth = 0 := by
    intro item hmem
    obtain ⟨c, -, rfl⟩ := List.mem_map.mp (List.mem_reverse.mp hmem)
    rfl
  unfold Frame.total Frame.branch literalRegex
  dsimp only
  rw [hregexes]
  refine ⟨_, ?_, rfl⟩
  split
  · exact Nat.zero_le 1
  · rename_i item hitems
    exact Nat.le_trans (Nat.le_of_eq (hflat item (hitems ▸ List.mem_singleton_self item)))
      (Nat.zero_le 1)
  · exact Nat.le_of_eq (congrArg (1 + ·) (hdepths _ hflat))

/-- Between the anchors, a text without metacharacters denotes itself. -/
theorem denotes_wrapped_literal {text : List Char} (h : ∀ c ∈ text, IsPlain c)
    (ignoreCase dotNewline : Bool) :
    ∃ depth ≤ 1, Denotes ignoreCase dotNewline (wrapped (SpacingRule.escapeSlashes false text))
      (wrapPiece ⟨literalRegex (.initial ignoreCase dotNewline) text, depth⟩) := by
  obtain ⟨depth, hdepth, htotal⟩ := total_literals (.initial ignoreCase dotNewline) text
  have hbody : Reader.Reads
      ((Reader.start ignoreCase dotNewline).under [wrapperFrame ignoreCase dotNewline])
      (SpacingRule.escapeSlashes false text ++ [')', '$'])
      (((Reader.start ignoreCase dotNewline).pushLiterals text).under
        [wrapperFrame ignoreCase dotNewline]) [')', '$'] := by
    have hread := Reader.reads_literal h
      (r := (Reader.start ignoreCase dotNewline).under [wrapperFrame ignoreCase dotNewline]) rfl
      [')', '$']
    rw [Reader.pushLiterals_eq] at hread ⊢
    exact hread
  have hend := reads_wrapper_end ignoreCase dotNewline
    (r := (Reader.start ignoreCase dotNewline).pushLiterals text) (u := [')', '$'])
    (by rw [Reader.pushLiterals_eq]; rfl) (by rw [Reader.pushLiterals_eq]; rfl)
  refine ⟨depth, hdepth, _, [], ((reads_wrapper_start _ _ _).trans hbody).trans hend, rfl, rfl, ?_⟩
  rw [wrapperEnd_total, ← htotal, Reader.pushLiterals_eq]
  simp [Reader.start, Frame.new]

/-! ## Matching -/

theorem mem_single_iff {c d : Char} : (CharSet.single c).mem d = true ↔ d = c := by
  simp only [CharSet.single, CharSet.mem, Bool.and_eq_true, decide_eq_true_eq]
  constructor
  · rintro ⟨hlow, hhigh⟩
    exact Char.le_antisymm hhigh hlow
  · rintro rfl
    exact ⟨Char.le_refl d, Char.le_refl d⟩

/-- Where case matters, a text is matched by itself alone. -/
theorem matchesAll_literals {dotNewline : Bool} : ∀ {text : List Char} {b n : Option Char}
    {w : List Char},
    Regex.MatchesAll (text.map (literal (.initial false dotNewline))) b w n ↔ w = text
  | [], _, _, _ => Iff.rfl
  | c :: text, b, n, w => by
      constructor
      · rintro ⟨u, v, rfl, ⟨d, rfl, hd⟩, hv⟩
        rw [matchesAll_literals.mp hv, mem_single_iff.mp hd]
        rfl
      · rintro rfl
        exact ⟨[c], text, rfl, ⟨c, rfl, mem_single_iff.mpr rfl⟩, matchesAll_literals.mpr rfl⟩

/-! ## Size -/

theorem le_size_literal (dotNewline : Bool) (c : Char) :
    32 ≤ (literal (.initial false dotNewline) c).size := by
  change 32 ≤ 32 * (c.utf8Size + 3 * (c.utf8Size - c.utf8Size))
  have := c.utf8Size_pos
  omega

/-- More parts take more room. -/
theorem size_catOf_mono {rs : List Regex} (h : ∀ r ∈ rs, 32 ≤ r.size) : ∀ {qs : List Regex},
    qs <+: rs → (Regex.catOf qs).size ≤ (Regex.catOf rs).size := by
  induction rs with
  | nil =>
      intro qs hqs
      exact Nat.le_of_eq (by rw [List.prefix_nil.mp hqs])
  | cons r rs ih =>
      obtain ⟨hr, hrs⟩ := List.forall_mem_cons.mp h
      have hcat : r.size ≤ (Regex.catOf (r :: rs)).size := by
        cases rs with
        | nil => exact Nat.le_refl _
        | cons s rs => exact Nat.le_add_right _ _
      intro qs hqs
      cases qs with
      | nil => exact Nat.le_trans hr hcat
      | cons q qs =>
          obtain ⟨rfl, hrest⟩ := List.cons_prefix_cons.mp hqs
          cases qs with
          | nil => exact hcat
          | cons q' qs =>
              cases rs with
              | nil => exact absurd (List.prefix_nil.mp hrest) (List.cons_ne_nil _ _)
              | cons s rs => exact Nat.add_le_add_left (ih hrs hrest) q.size

/-! ## Compiling -/

/-- The expression that a text between the anchors denotes. -/
def anchoredLiteral (dotNewline : Bool) (text : List Char) : Regex :=
  .catOf [.look .textStart, literalRegex (.initial false dotNewline) text, .look .textEnd]

theorem anchoredLiteral_size_mono {dotNewline : Bool} {u v : List Char} (h : u <+: v) :
    (anchoredLiteral dotNewline u).size ≤ (anchoredLiteral dotNewline v).size := by
  have hsize : (literalRegex (.initial false dotNewline) u).size ≤
      (literalRegex (.initial false dotNewline) v).size :=
    size_catOf_mono (List.forall_mem_map.mpr fun c _ => le_size_literal dotNewline c) (h.map _)
  exact Nat.add_le_add_left (Nat.add_le_add_right hsize _) _

/-- A text without metacharacters compiles, if it does not take too much room. -/
theorem compile_literal {text : List Char} (h : ∀ c ∈ text, IsPlain c) (dotNewline : Bool)
    (limit : Nat) : compile false dotNewline limit
        (wrapped (SpacingRule.escapeSlashes false text)) =
      if limit < (anchoredLiteral dotNewline text).size then .error (.tooBig limit)
      else .ok (anchoredLiteral dotNewline text) := by
  obtain ⟨depth, hdepth, hdenotes⟩ := denotes_wrapped_literal h false dotNewline
  have hparse : parse false dotNewline (wrapped (SpacingRule.escapeSlashes false text)) =
      some (anchoredLiteral dotNewline text) :=
    parse_iff.mpr ⟨_, hdenotes, Nat.le_trans (Nat.add_le_add_right hdepth 2) (by decide), rfl⟩
  unfold compile
  rw [hparse]

/-- Only the text itself is found. -/
theorem search_anchoredLiteral (dotNewline : Bool) (text answer : List Char) :
    (anchoredLiteral dotNewline text).search answer = true ↔ answer = text := by
  have hbounded : (literalRegex (.initial false dotNewline) text).Bounded :=
    Regex.catOf_bounded (List.forall_mem_map.mpr fun _ _ => trivial)
  exact (Regex.search_anchored_iff hbounded).trans
    ((Regex.catOf_matches _).trans matchesAll_literals)

end Gapfill.Pattern
