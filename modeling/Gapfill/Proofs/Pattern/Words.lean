import Mathlib.Algebra.GroupWithZero.Nat
import Gapfill.Proofs.Pattern.Literal
import Gapfill.Proofs.Spacing.Padding

/-!
# Texts that stand for words

Some sequences of expressions match the same words wherever they stand
(`HasWords`): those that assert nothing about a place. `SpellsWords` goes from the
text of a pattern to its words in one step: read where case matters and blanks
count, the text is so many pieces, and these match just these words. Texts are put
together (`SpellsWords.append`) and so are their words. At last, between the
anchors, the words are the answers that are found (`SpellsWords.compile`).
-/

namespace Gapfill.Pattern

/-! ## Words of sequences -/

/-- The expressions, one after the other, match these words and no others, wherever they stand. -/
def HasWords (rs : List Regex) (IsWord : List Char → Prop) : Prop :=
  ∀ b w n, Regex.MatchesAll rs b w n ↔ IsWord w

theorem HasWords.append {rs ss : List Regex} {V W : List Char → Prop} (h : HasWords rs V)
    (h' : HasWords ss W) : HasWords (rs ++ ss) fun w => ∃ u v, w = u ++ v ∧ V u ∧ W v := by
  intro b w n
  rw [Regex.matchesAll_append]
  constructor
  · rintro ⟨u, v, hw, hu, hv⟩
    exact ⟨u, v, hw, (h _ _ _).mp hu, (h' _ _ _).mp hv⟩
  · rintro ⟨u, v, hw, hu, hv⟩
    exact ⟨u, v, hw, (h _ _ _).mpr hu, (h' _ _ _).mpr hv⟩

theorem hasWords_single {r : Regex} {W : List Char → Prop} (h : ∀ b w n, r.Matches b w n ↔ W w) :
    HasWords [r] W := fun b w n => (Regex.catOf_matches [r]).symm.trans (h b w n)

/-- So many characters of one set. -/
theorem rounds_chars {set : CharSet} : ∀ {k : Nat} {b n : Option Char} {w : List Char},
    Language.rounds (Regex.chars set).Matches k b w n ↔
      w.length = k ∧ ∀ c ∈ w, set.mem c = true
  | 0, _, _, w => by
      rw [Language.rounds, List.length_eq_zero_iff]
      constructor
      · rintro rfl
        simp
      · exact fun h => h.1
  | k + 1, b, n, w => by
      constructor
      · rintro ⟨u, v, rfl, ⟨c, rfl, hc⟩, hv⟩
        obtain ⟨rfl, hmem⟩ := rounds_chars.mp hv
        exact ⟨by simp, List.forall_mem_cons.mpr ⟨hc, hmem⟩⟩
      · rintro ⟨hlength, hmem⟩
        obtain ⟨c, v, rfl⟩ := List.exists_cons_of_length_eq_add_one hlength
        obtain ⟨hc, hv⟩ := List.forall_mem_cons.mp hmem
        exact ⟨[c], v, rfl, ⟨c, rfl, hc⟩, rounds_chars.mpr ⟨by simpa using hlength, hv⟩⟩

theorem rep_chars_matches {set : CharSet} {min : Nat} {b n : Option Char} {w : List Char} :
    (Regex.rep (.chars set) min none).Matches b w n ↔
      min ≤ w.length ∧ ∀ c ∈ w, set.mem c = true := by
  constructor
  · rintro ⟨k, hmin, -, hk⟩
    obtain ⟨rfl, hmem⟩ := rounds_chars.mp hk
    exact ⟨hmin, hmem⟩
  · rintro ⟨hmin, hmem⟩
    exact ⟨w.length, hmin, by simp, rounds_chars.mpr ⟨rfl, hmem⟩⟩

/-- Nowhere in the expression is an assertion. -/
def Regex.LookFree : Regex → Prop
  | .empty => True
  | .chars _ => True
  | .look _ => False
  | .cat a b => a.LookFree ∧ b.LookFree
  | .alt a b => a.LookFree ∧ b.LookFree
  | .rep r _ _ => r.LookFree

/-- Without assertions, what is beside a word does not matter. -/
theorem Regex.LookFree.matches_of {r : Regex} (h : r.LookFree) :
    ∀ {b n b' n' : Option Char} {w : List Char}, r.Matches b w n → r.Matches b' w n' := by
  induction r with
  | empty => exact id
  | chars set => exact id
  | look l => exact h.elim
  | cat p q hp hq =>
      rintro b n b' n' w ⟨u, v, hw, hu, hv⟩
      exact ⟨u, v, hw, hp h.1 hu, hq h.2 hv⟩
  | alt p q hp hq => exact Or.imp (hp h.1) (hq h.2)
  | rep p min max hp =>
      have hrounds : ∀ k {b n b' n' : Option Char} {w : List Char},
          Language.rounds p.Matches k b w n → Language.rounds p.Matches k b' w n' := by
        intro k
        induction k with
        | zero => exact id
        | succ k ih =>
            rintro b n b' n' w ⟨u, v, hw, hu, hv⟩
            exact ⟨u, v, hw, hp h hu, ih hv⟩
      rintro b n b' n' w ⟨k, hmin, hmax, hk⟩
      exact ⟨k, hmin, hmax, hrounds k hk⟩

theorem Regex.LookFree.hasWords {r : Regex} (h : r.LookFree) :
    HasWords [r] fun w => r.Matches none w none :=
  hasWords_single fun _ _ _ => ⟨h.matches_of, h.matches_of⟩

theorem literal_matches {dotNewline : Bool} {c : Char} {b n : Option Char} {w : List Char} :
    (literal (.initial false dotNewline) c).Matches b w n ↔ w = [c] := by
  constructor
  · rintro ⟨d, rfl, hd⟩
    rw [mem_single_iff.mp hd]
  · rintro rfl
    exact ⟨c, rfl, mem_single_iff.mpr rfl⟩

/-! ## Texts and their words -/

/-- Where case matters and blanks count, the text is read as these pieces, which match just these
words. -/
structure SpellsWords (dotNewline : Bool) (text : List Char) (ps : List Piece)
    (IsWord : List Char → Prop) : Prop where
  spells : Spells (.initial false dotNewline) text ps
  notLazy : text.head? ≠ some '?'
  hasWords : HasWords (ps.map (·.regex)) IsWord
  depth : ∀ p ∈ ps, p.depth ≤ 3

namespace SpellsWords

variable {dotNewline : Bool} {text text' : List Char} {ps ps' : List Piece}
  {V W : List Char → Prop}

theorem nil : SpellsWords dotNewline [] [] (· = []) where
  spells := by
    intro r z u hflags _ hz
    obtain rfl : z = u := hz
    exact .refl r z
  notLazy := by simp
  hasWords := fun _ _ _ => Iff.rfl
  depth := by simp

theorem append (h : SpellsWords dotNewline text ps V)
    (h' : SpellsWords dotNewline text' ps' W) :
    SpellsWords dotNewline (text ++ text') (ps ++ ps')
      (fun w => ∃ u v, w = u ++ v ∧ V u ∧ W v) where
  spells := by
    intro r z u hflags hu hz
    have hlazy : ∀ v, text' ++ u ≠ '?' :: v := by
      cases htext : text' with
      | nil => exact hu
      | cons c rest =>
          rintro v heq
          refine h'.notLazy ?_
          rw [htext, (List.cons.inj heq).1]
          rfl
    have hfirst := h.spells r z (text' ++ u) hflags hlazy (by rw [hz, List.append_assoc])
    have hsecond := h'.spells (r.addAll ps) (text' ++ u) u hflags hu rfl
    exact r.addAll_addAll ps ps' ▸ hfirst.trans hsecond
  notLazy := by
    cases htext : text with
    | nil => exact h'.notLazy
    | cons c rest =>
        have := h.notLazy
        rw [htext] at this
        exact this
  hasWords := by
    rw [List.map_append]
    exact h.hasWords.append h'.hasWords
  depth := fun p hp => (List.mem_append.mp hp).elim (h.depth p) (h'.depth p)

theorem congr (h : SpellsWords dotNewline text ps V) (hwords : ∀ w, V w ↔ W w) :
    SpellsWords dotNewline text ps W :=
  { h with hasWords := fun b w n => (h.hasWords b w n).trans (hwords w) }

end SpellsWords

/-- The words of a sequence of texts: one word of each, one after the other. -/
theorem exists_spellsWords_flatMap {dotNewline : Bool} {α : Type} {text : α → List Char}
    {IsWord : α → List Char → Prop} : ∀ {ts : List α},
      (∀ t ∈ ts, ∃ ps, SpellsWords dotNewline (text t) ps (IsWord t)) →
      ∃ ps, SpellsWords dotNewline (ts.flatMap text) ps
        (fun w => ∃ words, List.Forall₂ IsWord ts words ∧ w = words.flatten)
  | [], _ => ⟨[], SpellsWords.nil.congr fun w => by simp⟩
  | t :: ts, h => by
      obtain ⟨⟨ps, hps⟩, hts⟩ := List.forall_mem_cons.mp h
      obtain ⟨ps', hps'⟩ := exists_spellsWords_flatMap hts
      refine ⟨ps ++ ps', (hps.append hps').congr fun w => ?_⟩
      constructor
      · rintro ⟨u, -, rfl, hu, words, hwords, rfl⟩
        exact ⟨u :: words, .cons hu hwords, rfl⟩
      · rintro ⟨words, hwords, rfl⟩
        obtain ⟨u, words, hu, hrest, rfl⟩ := List.forall₂_cons_left_iff.mp hwords
        exact ⟨u, words.flatten, rfl, hu, words, hrest, rfl⟩

/-! ## Characters -/

variable {dotNewline : Bool}

/-- A sign of ASCII that is neither a letter nor a digit. -/
def IsPunctuation (c : Char) : Prop :=
  0x21 ≤ c.toNat ∧ c.toNat ≤ 0x7e ∧ c.isAlphanum = false

instance (c : Char) : Decidable (IsPunctuation c) := inferInstanceAs (Decidable (_ ∧ _ ∧ _))

theorem isPunctuation_of_isMeta {c : Char} (h : isMeta c = true) :
    IsPunctuation c ∧ c ≠ '<' ∧ c ≠ '>' := by
  simp only [isMeta, decide_eq_true_eq, List.mem_cons, List.not_mem_nil, or_false] at h
  rcases h with rfl | rfl | rfl | rfl | rfl | rfl | rfl | rfl | rfl | rfl | rfl | rfl | rfl | rfl
    | rfl | rfl | rfl | rfl <;> decide

/-- What is quoted is more than what has a meaning. -/
theorem isPlain_of_not_isMeta {c : Char} (h : ¬ isMeta c = true) : IsPlain c := fun hmem =>
  h (decide_eq_true (List.mem_append_left ['#', '&', '-', '~'] hmem))

theorem spellsWords_literal {c : Char} {text : List Char} (hlazy : text.head? ≠ some '?')
    (h : Spells (.initial false dotNewline) text [.flat (literal (.initial false dotNewline) c)]) :
    SpellsWords dotNewline text [.flat (literal (.initial false dotNewline) c)] (· = [c]) where
  spells := h
  notLazy := hlazy
  hasWords := hasWords_single fun _ _ _ => literal_matches
  depth := by simp [Piece.flat]

theorem spells_plain (f : Flags) {c : Char} (h : IsPlain c) :
    Spells f [c] [.flat (literal f c)] := by
  rintro r z u rfl - hz
  exact .single hz (Reader.step_plain h r u)

theorem spellsWords_plain {c : Char} (h : IsPlain c) : SpellsWords dotNewline [c]
    [.flat (literal (.initial false dotNewline) c)] (· = [c]) := by
  refine spellsWords_literal ?_ (spells_plain _ h)
  rintro heq
  obtain rfl := Option.some.inj heq
  exact absurd h (by decide)

theorem readEscape_punctuation {f : Flags} {c : Char} (h : IsPunctuation c) (hless : c ≠ '<')
    (hmore : c ≠ '>') (rest : List Char) : readEscape f (c :: rest) = some (.literal c, rest) := by
  have hescapable : isEscapable c = true := by
    obtain ⟨-, hhigh, hsign⟩ := h
    have hascii : c.toNat < 0x80 := by omega
    simp [isEscapable, hascii, hsign, hless, hmore]
  have hne : ∀ d, ¬ IsPunctuation d → c ≠ d := by
    rintro d hd rfl
    exact hd h
  have hclass : c ∉ ['d', 's', 'w', 'D', 'S', 'W'] := by
    intro hmem
    simp only [List.mem_cons, List.not_mem_nil, or_false] at hmem
    rcases hmem with rfl | rfl | rfl | rfl | rfl | rfl <;> exact absurd h (by decide)
  unfold readEscape
  split
  all_goals rename_i heq
  all_goals first
    | exact absurd (List.cons.inj heq).1 (hne _ (by decide))
    | exact absurd (List.cons.inj heq).1 hless
    | exact absurd (List.cons.inj heq).1 hmore
    | skip
  · simp at heq
  · obtain ⟨rfl, rfl⟩ := List.cons.inj heq
    rw [if_neg hclass, if_pos hescapable]

theorem spellsWords_escape {c : Char} (h : IsPunctuation c) (hless : c ≠ '<') (hmore : c ≠ '>') :
    SpellsWords dotNewline ['\\', c] [.flat (literal (.initial false dotNewline) c)]
      (· = [c]) := by
  refine spellsWords_literal (by simp) (spells_of_push '\\' [c] fun names u => ?_)
  simp only [nextMove, List.singleton_append, readEscape_punctuation h hless hmore]
  rfl

/-! ## Bodies -/

/-- A text that spells pieces is read as these pieces between the anchors. -/
theorem Spells.denotes_wrapped {ignoreCase dotNewline : Bool} {text : List Char} {ps : List Piece}
    (h : Spells (.initial ignoreCase dotNewline) text ps) :
    Denotes ignoreCase dotNewline (wrapped text)
      (wrapPiece ((Reader.start ignoreCase dotNewline).addAll ps).frame.total) := by
  have hbody := h ((Reader.start ignoreCase dotNewline).under
    [wrapperFrame ignoreCase dotNewline]) (text ++ [')', '$']) [')', '$'] rfl (by simp) rfl
  have hend := reads_wrapper_end ignoreCase dotNewline
    (r := (Reader.start ignoreCase dotNewline).addAll ps) (u := [')', '$']) rfl rfl
  exact ⟨_, [], ((reads_wrapper_start _ _ _).trans hbody).trans hend, rfl, rfl,
    wrapperEnd_total _ _ _⟩

theorem foldl_max_le_iff : ∀ {xs : List Nat} {a b : Nat},
    xs.foldl max a ≤ b ↔ a ≤ b ∧ ∀ x ∈ xs, x ≤ b
  | [], _, _ => by simp
  | x :: xs, a, b => by
      rw [List.foldl_cons, foldl_max_le_iff, Nat.max_le, List.forall_mem_cons, and_assoc]

section Pieces

variable {ignoreCase dotNewline : Bool} {ps : List Piece}

theorem frame_addAll : ((Reader.start ignoreCase dotNewline).addAll ps).frame =
    ⟨[], (ps.map .piece).reverse⟩ := by
  simp [Reader.addAll, Reader.start, Frame.new]

/-- Pieces alone make one alternative. -/
theorem regex_total_addAll :
    ((Reader.start ignoreCase dotNewline).addAll ps).frame.total.regex =
      .catOf (ps.map (·.regex)) := by
  rw [frame_addAll]
  simp [Frame.total, Frame.branch, List.filterMap_map, Function.comp_def, Item.regex?]

/-- It is nested once more than they are. -/
theorem depth_total_addAll_le {depth : Nat} (h : ∀ p ∈ ps, p.depth ≤ depth) :
    ((Reader.start ignoreCase dotNewline).addAll ps).frame.total.depth ≤ depth + 1 := by
  have hitems : ∀ item ∈ (ps.map Item.piece).reverse, item.depth ≤ depth := by
    intro item hmem
    obtain ⟨p, hp, rfl⟩ := List.mem_map.mp (List.mem_reverse.mp hmem)
    exact h p hp
  rw [frame_addAll]
  unfold Frame.total Frame.branch
  dsimp only
  split
  · exact Nat.zero_le _
  · rename_i item hone
    exact Nat.le_succ_of_le (hitems item (hone ▸ List.mem_singleton_self item))
  · rw [Nat.add_comm]
    exact Nat.succ_le_succ
      (foldl_max_le_iff.mpr ⟨Nat.zero_le _, List.forall_mem_map.mpr hitems⟩)

theorem depth_lt_total_addAll {p : Piece} (hp : p ∈ ps) (hlength : 2 ≤ ps.length) :
    p.depth < ((Reader.start ignoreCase dotNewline).addAll ps).frame.total.depth := by
  have hmem : p.depth ∈ (ps.map Item.piece).reverse.map Item.depth :=
    List.mem_map.mpr ⟨.piece p, List.mem_reverse.mpr (List.mem_map_of_mem hp), rfl⟩
  have hmax := (foldl_max_le_iff.mp (Nat.le_refl
    (((ps.map Item.piece).reverse.map Item.depth).foldl max 0))).2 _ hmem
  have hlength' : ((ps.map Item.piece).reverse).length = ps.length := by simp
  rw [frame_addAll]
  unfold Frame.total Frame.branch
  dsimp only
  split
  · rename_i hnone
    rw [hnone, List.length_nil] at hlength'
    omega
  · rename_i item hone
    rw [hone, List.length_singleton] at hlength'
    omega
  · omega

end Pieces

/-- A text that spells words is refused only for the size of its program, and else just these words
are found. -/
theorem SpellsWords.compile {dotNewline : Bool} {text : List Char} {ps : List Piece}
    {W : List Char → Prop} (h : SpellsWords dotNewline text ps W) (limit : Nat) :
    ∃ regex : Regex, (∀ answer, regex.search answer = true ↔ W answer)
      ∧ compile false dotNewline limit (wrapped text) =
        if limit < regex.size then .error (.tooBig limit) else .ok regex := by
  have hdenotes := h.spells.denotes_wrapped
  have hbounded := hdenotes.bounded
  have hregex : ((Reader.start false dotNewline).addAll ps).frame.total.regex =
      .catOf (ps.map (·.regex)) := regex_total_addAll
  have hdepth : ((Reader.start false dotNewline).addAll ps).frame.total.depth ≤ 3 + 1 :=
    depth_total_addAll_le h.depth
  refine ⟨(wrapPiece ((Reader.start false dotNewline).addAll ps).frame.total).regex,
    fun answer => ?_, ?_⟩
  · have hinner : (Regex.catOf (ps.map (·.regex))).Bounded := hregex ▸ hbounded.2.1
    simp only [wrapPiece, hregex]
    exact (Regex.search_anchored_iff hinner).trans
      ((Regex.catOf_matches _).trans (h.hasWords none answer none))
  · have hparse : parse false dotNewline (wrapped text) = some _ :=
      parse_iff.mpr ⟨_, hdenotes, Nat.le_trans (Nat.add_le_add_right hdepth 2) (by decide), rfl⟩
    unfold Pattern.compile
    rw [hparse]

end Gapfill.Pattern
