import Gapfill.Proofs.Pattern.Widening
import Gapfill.Spacing

/-!
# What the reader makes of padding

A rule for blanks writes `[ \t]` with a sign of repetition, and around most
tokens it writes this twice. `Spells` says which items the reader makes of such
a text, whatever stands before it; the items of two texts are put together
unless the second could be taken for a part of the first (`Spells.append`).

Where blanks in a pattern do not count, the space in `[ \t]` does not count
either, and the padding is for tabs only. That is enough: padding may be empty.
-/

namespace Gapfill.Pattern

/-! ## Spelling -/

/-- The reader with these pieces read, in the order of the text. -/
def Reader.addAll (r : Reader) (ps : List Piece) : Reader :=
  { r with frame := ⟨r.frame.branches, (ps.map .piece).reverse ++ r.frame.items⟩ }

/-- The text is read as these pieces, wherever it stands, unless a question mark follows it. -/
def Spells (f : Flags) (text : List Char) (ps : List Piece) : Prop :=
  ∀ (r : Reader) (z u : List Char), r.flags = f → (∀ v, u ≠ '?' :: v) → f.skip z = text ++ u →
    Reader.Reads r z (r.addAll ps) u

theorem Reader.addAll_addAll (r : Reader) (ps ps' : List Piece) :
    (r.addAll ps).addAll ps' = r.addAll (ps ++ ps') := by
  simp [addAll]

theorem Item.regexes_addAll (r : Reader) (ps : List Piece) :
    Item.regexes (r.addAll ps).frame.items =
      Item.regexes r.frame.items ++ ps.map (·.regex) := by
  rw [Reader.addAll, Item.regexes_append]
  simp [Item.regexes, List.filterMap_map, Function.comp_def, Item.regex?]

theorem Reader.Wider.addAll {r r' : Reader} {ps ps' : List Piece} (h : r.Wider r')
    (hps : WidensAll (ps.map (·.regex)) (ps'.map (·.regex))) :
    (r.addAll ps).Wider (r'.addAll ps') := by
  refine ⟨h.flags, h.names, ⟨h.frame.branches, ?_⟩, h.outer⟩
  rw [Item.regexes_addAll, Item.regexes_addAll]
  exact h.frame.items.append hps

theorem Reader.Wider.lastAddAll {r r' : Reader} {p p' : Piece} (h : r.Wider r')
    (hp : p.regex.Widens p'.regex) :
    (r.addAll [p]).frame.LastWider (r'.addAll [p']).frame :=
  (h.frame.pushPiece p p' hp).2

theorem Spells.append {f : Flags} {text : List Char} {ps ps' : List Piece} {c : Char}
    {rest : List Char} (h : Spells f text ps) (h' : Spells f (c :: rest) ps') (hc : Counts c)
    (hlazy : c ≠ '?') : Spells f (text ++ c :: rest) (ps ++ ps') := by
  intro r z u hflags hu hz
  rw [List.append_assoc] at hz
  have hfirst := h r z _ hflags (fun v heq => hlazy (List.cons.inj heq).1) hz
  have hsecond := h' (r.addAll ps) _ u hflags hu (Flags.skip_of_counts hc _)
  exact r.addAll_addAll ps ps' ▸ hfirst.trans hsecond

/-- An item that adds a piece spells it. -/
theorem spells_of_push {f : Flags} {p : Piece} (c : Char) (rest : List Char)
    (h : ∀ names u, nextMove f names c (rest ++ u) = some (.push (.piece p) f, u)) :
    Spells f (c :: rest) [p] := by
  rintro r z u rfl - hz
  exact .single hz (Reader.step_eq_some.mpr ⟨_, h _ u, rfl⟩)

/-- A piece with a sign of repetition spells its repetition. -/
theorem Spells.repeated {f : Flags} {text : List Char} {p : Piece} {sign : Char} {min : Nat}
    (h : Spells f text [p]) (hc : Counts sign) (hlazy : sign ≠ '?')
    (hsign : ∀ names u, nextMove f names sign u = some (.repeatLast min none, dropLazy u)) :
    Spells f (text ++ [sign]) [⟨.rep p.regex min none, p.depth + 1⟩] := by
  intro r z u hflags hu hz
  rw [List.append_assoc] at hz
  have hfirst := h r z _ hflags (fun v heq => hlazy (List.cons.inj heq).1) hz
  refine hfirst.trans (.single (u := u) (Flags.skip_of_counts hc u) ?_)
  refine Reader.step_eq_some.mpr ⟨.repeatLast min none, ?_, rfl⟩
  rw [show (r.addAll [p]).flags = f from hflags, hsign]
  cases u with
  | nil => rfl
  | cons d v =>
      have hd : d ≠ '?' := fun heq => hu v (heq ▸ rfl)
      simp [dropLazy]

/-! ## Blanks -/

theorem blank_eq : SpacingRule.blank = ['[', ' ', '\\', 't', ']'] := by decide

/-- What `[ \t]` stands for. -/
def blankSet (f : Flags) : CharSet :=
  f.close (if f.skipBlanks then .single '\t' else .union (.single ' ') (.single '\t'))

def blank (f : Flags) : Piece := ⟨.chars (blankSet f), if f.skipBlanks then 1 else 2⟩

theorem spells_blank (f : Flags) : Spells f SpacingRule.blank [blank f] := by
  refine spells_of_push '[' [' ', '\\', 't', ']'] fun names u => ?_
  obtain ⟨ignoreCase, _, _, unicode, _, skipBlanks⟩ := f
  cases skipBlanks <;> cases unicode <;> cases ignoreCase <;> rfl

/-- One blank and more. -/
theorem spells_wide (f : Flags) : Spells f (SpacingRule.blank ++ ['+'])
    [⟨.rep (blank f).regex 1 none, (blank f).depth + 1⟩] :=
  (spells_blank f).repeated (by decide) (by decide) fun _ _ => rfl

theorem CharSet.mem_close_union {f : Flags} {a b : CharSet} {c : Char}
    (h : (f.close a).mem c = true) : (f.close (.union a b)).mem c = true := by
  unfold Flags.close at h ⊢
  split
  · rename_i hcase
    rw [if_pos hcase] at h
    split
    · rename_i hunicode
      rw [if_pos hunicode] at h
      simp only [CharSet.mem, Bool.or_eq_true, List.any_eq_true] at h ⊢
      rcases h with h | ⟨d, hd, h⟩
      · exact Or.inl (Or.inl h)
      · exact Or.inr ⟨d, hd, Or.inl h⟩
    · rename_i hunicode
      rw [if_neg hunicode] at h
      simp only [CharSet.mem, Bool.or_eq_true] at h ⊢
      exact h.imp Or.inl Or.inl
  · rename_i hcase
    rw [if_neg hcase] at h
    simp only [CharSet.mem, Bool.or_eq_true]
    exact Or.inl h

/-! ## Padded tokens -/

/-- Blanks, as many as there are. -/
def padding (f : Flags) : Piece := ⟨.rep (blank f).regex 0 none, (blank f).depth + 1⟩

theorem spells_padding (f : Flags) : Spells f ['[', ' ', '\\', 't', ']', '*'] [padding f] := by
  have hblank := spells_blank f
  rw [blank_eq] at hblank
  exact hblank.repeated (by decide) (by decide) fun _ _ => rfl

/-- A text between paddings is read as its pieces between paddings. -/
theorem spells_padded {f : Flags} {c : Char} {rest : List Char} {ps : List Piece}
    (h : Spells f (c :: rest) ps) (hc : Counts c) (hlazy : c ≠ '?') :
    Spells f (SpacingRule.padded (c :: rest)) (padding f :: ps ++ [padding f]) := by
  have hfront := (spells_padding f).append h hc hlazy
  have hall := hfront.append (spells_padding f) (by decide) (by decide)
  simpa [SpacingRule.padded, blank_eq] using hall

theorem widensAll_padded (f : Flags) {ps ps' : List Piece}
    (h : WidensAll (ps.map (·.regex)) (ps'.map (·.regex))) :
    WidensAll (ps.map (·.regex)) ((padding f :: ps' ++ [padding f]).map (·.regex)) := by
  have hnone : WidensAll [] [(padding f).regex] := by
    rintro b w n rfl
    exact ⟨[], [], rfl, ⟨0, Nat.le_refl 0, by simp, rfl⟩, rfl⟩
  have hall := (hnone.append h).append hnone
  simpa using hall

/-! ## Literals -/

theorem spells_literal (f : Flags) {c : Char} (h : c = ' ' ∨ c = ';' ∨ c = '<' ∨ c = '>') :
    Spells f [c] [.flat (literal f c)] := by
  refine spells_of_push c [] fun names u => ?_
  rcases h with rfl | rfl | rfl | rfl <;> rfl

theorem spells_pair (f : Flags) {c : Char} (h : c = '<' ∨ c = '>') :
    Spells f [c, c] [.flat (literal f c), .flat (literal f c)] := by
  have hone : Spells f [c] [.flat (literal f c)] :=
    spells_literal f (by rcases h with rfl | rfl <;> simp)
  have hc : Counts c ∧ c ≠ '?' := by rcases h with rfl | rfl <;> decide
  exact hone.append hone hc.1 hc.2

theorem spells_bar (f : Flags) : Spells f ['\\', '|'] [.flat (literal f '|')] :=
  spells_of_push '\\' ['|'] fun _ _ => rfl

/-- A semicolon or a newline. -/
def semicolon (f : Flags) : Piece :=
  ⟨.alt (literal f ';') (literal f '\n'), 2⟩

theorem spells_semicolon (f : Flags) : Spells f "(?:;|\\n)".toList [semicolon f] := by
  rintro r z u rfl - hz
  have hstep : ∀ {r r' : Reader} {c : Char} {s z : List Char}, Counts c →
      r.step c s = some (r', z) → Reader.Reads r (c :: s) r' z := fun hc h =>
    .single (Flags.skip_of_counts hc _) h
  have hopen : r.step '(' ('?' :: ':' :: ';' :: '|' :: '\\' :: 'n' :: ')' :: u) =
      some (r.openGroup r.flags, ';' :: '|' :: '\\' :: 'n' :: ')' :: u) := by
    refine Reader.step_eq_some.mpr ⟨.openGroup r.flags r.names, ?_, rfl⟩
    simp only [nextMove, Move.group, Flags.skip_of_counts (c := '?') (by decide)]
    rfl
  refine .step hz hopen ?_
  exact (hstep (by decide) rfl).trans ((hstep (by decide) rfl).trans
      ((hstep (by decide) rfl).trans (hstep (by decide) rfl)))

end Gapfill.Pattern
