import Gapfill.Pattern.Reader

/-!
# The readers of patterns in parts

A reader of patterns looks at the character or the mark that comes next, and reads
on in one of a few ways. Here each way is a reader of its own, and there is an
equation for each thing that may come next. What holds of all readers is proved
along these parts: that they leave an end of their text
(`Gapfill.Proofs.Pattern.Suffix`), that they look no further than they read
(`Gapfill.Proofs.Pattern.Lookahead`), and that an escaped slash is a slash to them
(`Gapfill.Proofs.Pattern.Slashes`).
-/

namespace Gapfill.Pattern

variable {f : Flags}

/-! ## What comes next -/

/-- A text that is there but does not begin with the character `k`. -/
def Other (k : Char) (s : List Char) : Prop := s ≠ [] ∧ ∀ u, s ≠ k :: u

theorem next_cases (k : Char) (s : List Char) : s = [] ∨ (∃ u, s = k :: u) ∨ Other k s := by
  cases s with
  | nil => exact Or.inl rfl
  | cons c u =>
      by_cases hc : c = k
      · exact Or.inr (Or.inl ⟨u, by rw [hc]⟩)
      · exact Or.inr (Or.inr ⟨List.cons_ne_nil c u, fun v hv => hc (List.cons.inj hv).1⟩)

theorem after?_eq_some {start s u : List Char} : after? start s = some u ↔ s = start ++ u := by
  unfold after?
  constructor
  · intro h
    split at h
    · rename_i hprefix
      rw [← Option.some.inj h]
      exact (List.prefix_iff_eq_append.mp (List.isPrefixOf_iff_prefix.mp hprefix)).symm
    · simp at h
  · rintro rfl
    simp

theorem after?_eq_none {start s : List Char} (h : ∀ u, s ≠ start ++ u) : after? start s = none :=
  Option.eq_none_iff_forall_ne_some.mpr fun u hu => h u (after?_eq_some.mp hu)

theorem after?_cons (k c : Char) (start s : List Char) :
    after? (k :: start) (c :: s) = if k = c then after? start s else none := by
  unfold after?
  by_cases h : k = c
  · subst h
    simp
  · simp [List.isPrefixOf, h]

/-- What is made of the thing that was read; the rest is left as it is. -/
theorem made_eq_some {α β : Type} {read : Option (α × List Char)} {make : α → Option β} {b : β}
    {z : List Char} : (read.bind fun (a, rest) => (make a).map (·, rest)) = some (b, z) ↔
      ∃ a, read = some (a, z) ∧ make a = some b := by
  rcases read with _ | ⟨a, rest⟩
  · simp
  · simp only [Option.bind_some, Option.map_eq_some_iff, Prod.mk.injEq, Option.some.injEq]
    constructor
    · rintro ⟨_, hmake, rfl, rfl⟩
      exact ⟨a, ⟨rfl, rfl⟩, hmake⟩
    · rintro ⟨_, ⟨rfl, rfl⟩, hmake⟩
      exact ⟨b, hmake, rfl, rfl⟩

/-! ## Escapes -/

/-- What is made of a run of characters and the rest, if the run ends at a closing brace. -/
def inBraces {α : Type} (act : List Char → List Char → Option (α × List Char))
    (taken : List Char × List Char) : Option (α × List Char) :=
  match taken.2 with
  | '\x7d' :: rest => act taken.1 rest
  | _ => none

theorem inBraces_eq_some {α : Type} {act : List Char → List Char → Option (α × List Char)}
    {taken : List Char × List Char} {read : α × List Char} (h : inBraces act taken = some read) :
    ∃ rest, taken.2 = '\x7d' :: rest ∧ act taken.1 rest = some read := by
  unfold inBraces at h
  split at h
  · exact ⟨_, by assumption, h⟩
  · simp at h

/-- The character of a code whose digits stand in braces. -/
def bracedCode (f : Flags) (run rest : List Char) : Option (Escape × List Char) :=
  if run.isEmpty then none else (charOf? (ofDigitsIn 16 run)).map fun c => (.literal c, f.skip rest)

/-- The character of a code with a fixed number of digits. -/
def codeOfDigits (digits : Nat) (taken : Option (List Char × List Char)) :
    Option (Escape × List Char) :=
  match taken with
  | none => none
  | some (run, rest) =>
    (charOf? (ofDigitsIn 16 run)).map fun c => (if digits == 2 then .byte c else .literal c, rest)

theorem readCode_end (digits : Nat) {s : List Char} (h : f.skip s = []) :
    readCode f digits s = none := by
  rw [readCode, h]

theorem readCode_brace (digits : Nat) {s u : List Char} (h : f.skip s = '\x7b' :: u) :
    readCode f digits s = inBraces (bracedCode f) (takeRun f isHexDigit s.length (f.skip u)) := by
  unfold readCode
  rw [h]
  rfl

/-- The escape that a fixed number of digits stands for. -/
def digitsEscape? (digits : Nat) (run : List Char) : Option Escape :=
  (charOf? (ofDigitsIn 16 run)).map fun c => if digits == 2 then .byte c else .literal c

theorem codeOfDigits_eq (digits : Nat) (taken : Option (List Char × List Char)) :
    codeOfDigits digits taken =
      taken.bind fun (run, rest) => (digitsEscape? digits run).map (·, rest) := by
  rcases taken with _ | ⟨run, rest⟩
  · rfl
  · simp only [codeOfDigits, digitsEscape?, Option.bind_some, Option.map_map, Function.comp_def]

theorem readCode_other (digits : Nat) {s : List Char} (h : Other '\x7b' (f.skip s)) :
    readCode f digits s = codeOfDigits digits (takeExactly f isHexDigit digits (f.skip s)) := by
  unfold readCode
  split
  · exact absurd (by assumption) h.1
  · exact absurd (by assumption) (h.2 _)
  · rfl

/-- The property whose name stands in braces. -/
def bracedProperty (negated : Bool) (name rest : List Char) : Option (Escape × List Char) :=
  (propertyIn? name).map fun (p, unequal) => (.property p (negated != unequal), rest)

theorem readProperty_end (negated : Bool) {s : List Char} (h : f.skip s = []) :
    readProperty f negated s = none := by
  rw [readProperty, h]

theorem readProperty_brace (negated : Bool) {s u : List Char} (h : f.skip s = '\x7b' :: u) :
    readProperty f negated s =
      inBraces (bracedProperty negated) (takeRun f (· != '\x7d') s.length (f.skip u)) := by
  unfold readProperty
  rw [h]
  rfl

theorem readProperty_letter (negated : Bool) {s u : List Char} {c : Char} (h : f.skip s = c :: u)
    (hbrace : c ≠ '\x7b') (hback : c ≠ '\\') :
    readProperty f negated s =
      (Unicode.Property.ofName? [c]).map fun p => (.property p negated, u) := by
  unfold readProperty
  rw [h]
  split
  · rename_i heq
    exact absurd heq (List.cons_ne_nil _ _)
  · rename_i heq
    exact absurd (List.cons.inj heq).1 hbrace
  · rename_i heq
    exact absurd (List.cons.inj heq).1 hback
  · rename_i heq
    obtain ⟨rfl, rfl⟩ := List.cons.inj heq
    rfl

theorem readProperty_backslash (negated : Bool) {s u : List Char} (h : f.skip s = '\\' :: u) :
    readProperty f negated s = none := by
  unfold readProperty
  rw [h]
  rfl

/-- A character of the name of a boundary. -/
def isBoundaryNamePart (c : Char) : Bool := c.isAlpha || c == '-'

/-- The boundary whose name stands in braces. -/
def bracedBoundary (name rest : List Char) : Option (Escape × List Char) :=
  match String.ofList name with
  | "start" => some (.wordStart, rest)
  | "end" => some (.wordEnd, rest)
  | "start-half" => some (.wordStartHalf, rest)
  | "end-half" => some (.wordEndHalf, rest)
  | _ => none

theorem readBoundary_brace (f : Flags) (s : List Char) :
    readBoundary f ('\x7b' :: s) = match f.skip s with
      | [] => none
      | c :: rest =>
        if isBoundaryNamePart c then
          inBraces bracedBoundary (takeRun f isBoundaryNamePart ('\x7b' :: s).length (c :: rest))
        else some (.wordBoundary, '\x7b' :: s) := rfl

theorem readBoundary_other {s : List Char} (h : ∀ u, s ≠ '\x7b' :: u) :
    readBoundary f s = some (.wordBoundary, s) := by
  unfold readBoundary
  split
  · exact absurd rfl (h _)
  · rfl

/-- How an escape is read on, once the character behind the backslash is known. -/
inductive EscapeForm where
  | code (digits : Nat)
  | property (negated : Bool)
  | boundary
  | plain (e : Escape)
  | none

def EscapeForm.read (f : Flags) : EscapeForm → List Char → Option (Escape × List Char)
  | code digits, s => readCode f digits s
  | property negated, s => readProperty f negated s
  | boundary, s => readBoundary f s
  | plain e, s => some (e, s)
  | none, _ => .none

def escapeForm : Char → EscapeForm
  | 'x' => .code 2
  | 'u' => .code 4
  | 'U' => .code 8
  | 'p' => .property false
  | 'P' => .property true
  | 'b' => .boundary
  | 'B' => .plain .noWordBoundary
  | 'A' => .plain .textStart
  | 'z' => .plain .textEnd
  | '<' => .plain .wordStart
  | '>' => .plain .wordEnd
  | 'a' => .plain (.literal '\x07')
  | 'f' => .plain (.literal '\x0c')
  | 't' => .plain (.literal '\t')
  | 'n' => .plain (.literal '\n')
  | 'r' => .plain (.literal '\r')
  | 'v' => .plain (.literal '\x0b')
  | c =>
    if c ∈ ['d', 's', 'w', 'D', 'S', 'W'] then .plain (.class c)
    else if isEscapable c then .plain (.literal c)
    else .none

/-- One character decides how an escape is read; this keeps the later proofs about escapes to a
case for each form. -/
theorem readEscape_cons (f : Flags) (c : Char) (s : List Char) :
    readEscape f (c :: s) = (escapeForm c).read f s := by
  unfold escapeForm
  split
  case h_18 =>
      unfold readEscape
      split <;> simp_all
      split
      · rfl
      · split <;> rfl
  all_goals rfl

/-! ## The start of a bracket -/

/-- The sign of negation at the start of a bracket. -/
def openSign (f : Flags) (s : List Char) : Bool × List Char :=
  match f.skip s with
  | '^' :: rest => (true, f.skip rest)
  | s => (false, s)

/-- The closing bracket that stands for itself at the start of a bracket. -/
def openLiteral (f : Flags) (start : SetFrame × List Char) : SetFrame × List Char :=
  match start.1.parts, start.2 with
  | [], ']' :: rest => (start.1.push (.flat (.single ']')), f.skip rest)
  | _, s => (start.1, s)

theorem openSet_eq (f : Flags) (s : List Char) :
    openSet f s = openLiteral f (readHyphens f (openSign f s).2.length
      ⟨(openSign f s).1, none, []⟩ (openSign f s).2) := rfl

/-! ## Named sets -/

/-- A named set behind its sign of negation. -/
def namedSetIn (f : Flags) (negated : Bool) (s : List Char) :
    Option (Option CharSet × List Char) :=
  match s.dropWhile (· != ':') with
  | ':' :: ']' :: rest =>
    (CharSet.ofAsciiName? (s.takeWhile (· != ':'))).map fun named =>
      let set := f.close named
      (f.admit? (if negated then .compl set else set), rest)
  | _ => none

theorem namedSetIn_eq (negated : Bool) (s : List Char) :
    namedSetIn f negated s = (after? [':', ']'] (s.dropWhile (· != ':'))).bind fun rest =>
      (CharSet.ofAsciiName? (s.takeWhile (· != ':'))).map fun named =>
        (f.admit? (if negated then .compl (f.close named) else f.close named), rest) := by
  unfold namedSetIn
  split
  · rename_i hdrop
    rw [hdrop]
    rfl
  · rename_i hother
    rw [after?_eq_none fun rest hrest => hother rest hrest]
    rfl

/-- The sign of negation in front of the name of a set. -/
def namedSign (s : List Char) : Bool × List Char :=
  match s with
  | '^' :: rest => (true, rest)
  | _ => (false, s)

theorem namedSign_ne {c : Char} (hc : c ≠ '^') (s : List Char) :
    namedSign (c :: s) = (false, c :: s) := by
  unfold namedSign
  split
  · rename_i heq
    exact absurd (List.cons.inj heq).1 hc
  · rfl

theorem readNamedSet_colon (f : Flags) (s : List Char) :
    readNamedSet f (':' :: s) = namedSetIn f (namedSign s).1 (namedSign s).2 := rfl

theorem readNamedSet_ne {c : Char} (hc : c ≠ ':') (s : List Char) :
    readNamedSet f (c :: s) = none := by
  unfold readNamedSet
  split
  · rename_i heq
    exact absurd (List.cons.inj heq).1 hc
  · rfl

/-! ## Parts of a set -/

/-- The item of a set that an escape stands for. -/
def Escape.setItem? (f : Flags) : Escape → Option SetItem
  | .literal c => some (.char c)
  | .byte c => some (.char c)
  | .class letter => (classSet? f letter).map .set
  | .property p negated => (propertySet? f p negated).map .set
  | _ => none

theorem readSetItem_backslash (s : List Char) :
    readSetItem f ('\\' :: s) =
      (readEscape f s).bind fun (e, rest) => (e.setItem? f).map (·, rest) := by
  simp only [readSetItem]
  rcases readEscape f s with _ | ⟨e, rest⟩
  · rfl
  · cases e <;> simp [Escape.setItem?, Function.comp_def]

theorem readSetItem_cons {c : Char} (hc : c ≠ '\\') (s : List Char) :
    readSetItem f (c :: s) = some (.char c, s) := by
  unfold readSetItem
  split
  · rename_i heq
    exact absurd heq (List.cons_ne_nil _ _)
  · rename_i heq
    exact absurd (List.cons.inj heq).1 hc
  · rename_i heq
    obtain ⟨rfl, rfl⟩ := List.cons.inj heq
    rfl

/-- What comes behind blanks, and behind the sign of a comment with blanks around it. -/
def behindSign (s : List Char) : List Char :=
  match s.dropWhile isBlank with
  | '#' :: rest => rest.dropWhile isBlank
  | s => s

theorem behindSign_sign {s u : List Char} (h : s.dropWhile isBlank = '#' :: u) :
    behindSign s = u.dropWhile isBlank := by
  unfold behindSign
  rw [h]
  rfl

theorem behindSign_other {s : List Char} (h : ∀ u, s.dropWhile isBlank ≠ '#' :: u) :
    behindSign s = s.dropWhile isBlank := by
  unfold behindSign
  split
  · exact absurd (by assumption) (h _)
  · rfl

theorem peekPast_eq (s : List Char) :
    peekPast f s = if f.skipBlanks then (behindSign s).head?.or s.head? else s.head? := by
  unfold peekPast
  split
  · split
    · rename_i hsign
      rw [behindSign_sign hsign]
      split
      · rename_i heq
        rw [heq]
        rfl
      · rename_i heq
        rw [heq]
        rfl
    · rename_i hne heq
      have hsign : ∀ u, s.dropWhile isBlank ≠ '#' :: u := fun u hu =>
        hne (List.cons.inj (heq.symm.trans hu)).1
      rw [behindSign_other hsign, heq]
      rfl
    · rename_i heq
      rw [behindSign, heq]
      rfl
  · rfl

/-- An item that is a part of its own. -/
def SetItem.alone (f : Flags) (first : SetItem) (rest : List Char) :
    Option (SetPiece × List Char) :=
  match first with
  | .char c => (setLiteral? f c).map fun set => (.flat set, rest)
  | .set whole => some (.flat whole, rest)

/-- An item that begins a range. -/
def SetItem.upTo (f : Flags) (first : SetItem) (hi : Char) (rest : List Char) :
    Option (SetPiece × List Char) :=
  match first with
  | .char lo =>
    if lo ≤ hi && (setLiteral? f hi).isSome then some (.flat (.range lo hi), rest) else none
  | .set _ => none

/-- A hyphen behind an item: a range begins, or the item stands alone. -/
def SetItem.hyphen (f : Flags) (first : SetItem) (s : List Char) : Option (SetPiece × List Char) :=
  if peekPast f s == some ']' || peekPast f s == some '-' then first.alone f ('-' :: s)
  else
    match readSetItem f (f.skip s) with
    | some (.char hi, rest) => first.upTo f hi rest
    | _ => none

/-- What comes behind the first item of a part. -/
def SetItem.behind (f : Flags) (first : SetItem) (s : List Char) : Option (SetPiece × List Char) :=
  match s with
  | [] => none
  | '-' :: rest => first.hyphen f rest
  | rest => first.alone f rest

theorem SetItem.behind_other {s : List Char} (first : SetItem) (h : Other '-' s) :
    first.behind f s = first.alone f s := by
  unfold SetItem.behind
  split
  · exact absurd rfl h.1
  · exact absurd rfl (h.2 _)
  · rfl

theorem readSetPart_eq (s : List Char) :
    readSetPart f s =
      (readSetItem f s).bind fun (first, rest) => first.behind f (f.skip rest) := by
  unfold readSetPart
  rcases readSetItem f s with _ | ⟨first, rest⟩ <;> rfl

/-! ## Whole sets -/

/-- The operation that has the character as its sign, doubled. -/
def SetOp.ofSign? : Char → Option SetOp
  | '&' => some .inter
  | '-' => some .diff
  | '~' => some .symmDiff
  | _ => none

/-- Reads the sign of an operation between sets. -/
def readSetOp : List Char → Option (SetOp × List Char)
  | c :: d :: rest => if c = d then (SetOp.ofSign? c).map (·, rest) else none
  | _ => none

theorem SetOp.ofSign?_eq_none {c : Char} (hinter : c ≠ '&') (hdiff : c ≠ '-') (hsymm : c ≠ '~') :
    SetOp.ofSign? c = none := by
  unfold SetOp.ofSign?
  split
  · exact absurd rfl hinter
  · exact absurd rfl hdiff
  · exact absurd rfl hsymm
  · rfl

theorem readSetOp_eq_some {s rest : List Char} {op : SetOp} :
    readSetOp s = some (op, rest) ↔ ∃ c, s = c :: c :: rest ∧ SetOp.ofSign? c = some op := by
  constructor
  · intro h
    unfold readSetOp at h
    split at h
    · split at h
      · rename_i hcd
        obtain ⟨_, hop, heq⟩ := Option.map_eq_some_iff.mp h
        obtain ⟨rfl, rfl⟩ := Prod.mk.inj heq
        exact ⟨_, by rw [hcd], hcd ▸ hop⟩
      · simp at h
    · simp at h
  · rintro ⟨c, rfl, hop⟩
    rw [readSetOp, if_pos rfl, hop]
    rfl

/-- How a set is read on behind an opening bracket. -/
def readSetOpen (f : Flags) (n : Nat) (frame : SetFrame) (outer : List SetFrame) (s : List Char) :
    Option (SetPiece × List Char) :=
  match readNamedSet f s with
  | some (some set, rest) => readSet f n (frame.push (.flat set)) outer rest
  | some (none, _) => none
  | none => readSet f n (openSet f s).1 (frame :: outer) (openSet f s).2

/-- How a set is read on behind a closing bracket. -/
def readSetClose (f : Flags) (n : Nat) (frame : SetFrame) (outer : List SetFrame) (s : List Char) :
    Option (SetPiece × List Char) :=
  match frame.close? f, outer with
  | none, _ => none
  | some piece, [] => some (piece, s)
  | some piece, around :: outer => readSet f n (around.push piece) outer s

/-- How a set is read on where no bracket stands. -/
def readSetNext (f : Flags) (n : Nat) (frame : SetFrame) (outer : List SetFrame) (s : List Char) :
    Option (SetPiece × List Char) :=
  match readSetOp s with
  | some (op, rest) => readSet f n (frame.operate f op) outer rest
  | none => (readSetPart f s).bind fun (part, rest) => readSet f n (frame.push part) outer rest

variable {frame : SetFrame} {outer : List SetFrame}

theorem readSet_end {s : List Char} (n : Nat) (h : f.skip s = []) :
    readSet f (n + 1) frame outer s = none := by
  rw [readSet, h]

theorem readSet_open {s u : List Char} (n : Nat) (h : f.skip s = '[' :: u) :
    readSet f (n + 1) frame outer s = readSetOpen f n frame outer u := by
  rw [readSet, h]
  rfl

theorem readSet_close {s u : List Char} (n : Nat) (h : f.skip s = ']' :: u) :
    readSet f (n + 1) frame outer s = readSetClose f n frame outer u := by
  rw [readSet, h]
  rfl

theorem readSet_next {s : List Char} (n : Nat) (hopen : Other '[' (f.skip s))
    (hclose : Other ']' (f.skip s)) :
    readSet f (n + 1) frame outer s = readSetNext f n frame outer (f.skip s) := by
  rw [readSet]
  generalize f.skip s = t at *
  split
  · exact absurd rfl hopen.1
  · exact absurd rfl (hopen.2 _)
  · exact absurd rfl (hclose.2 _)
  · rfl
  · rfl
  · rfl
  · rename_i hinter hdiff hsymm
    have hop : readSetOp t = none := by
      rcases t with _ | ⟨c, _ | ⟨d, u⟩⟩
      · rfl
      · rfl
      · rw [readSetOp]
        split
        · rename_i hcd
          subst hcd
          rw [SetOp.ofSign?_eq_none]
          · rfl
          · rintro rfl
            exact hinter u rfl
          · rintro rfl
            exact hdiff u rfl
          · rintro rfl
            exact hsymm u rfl
        · rfl
    rw [readSetNext, hop]
    rcases readSetPart f t with _ | ⟨part, rest⟩ <;> rfl

/-! ## Names, counts and bounds -/

/-- The name that was taken up to an angle bracket, if it is one. -/
def nameIn (taken : List Char × List Char) : Option (List Char × List Char) :=
  match taken with
  | (c :: name, _ :: rest) =>
    if (c == '_' || Unicode.isAlphabetic c) && (c :: name).all isNameChar then
      some (c :: name, rest)
    else none
  | _ => none

theorem readName_eq (s : List Char) :
    readName s = nameIn (s.takeWhile (· != '>'), s.dropWhile (· != '>')) := by
  unfold readName nameIn
  dsimp only
  split
  · rename_i hname hrest
    rw [hname, hrest]
  · rename_i hother
    split
    · rename_i heq
      obtain ⟨hname, hrest⟩ := Prod.mk.inj heq
      exact absurd hrest (hother _ _ _ _ hname)
    · rfl

/-- What is left behind a count: where blanks come, comments too are dropped. -/
def behindCount (f : Flags) (s : List Char) : List Char :=
  if s.head?.any isBlank then f.skip (s.dropWhile isBlank) else s

theorem readCount_eq (s : List Char) :
    readCount f s =
      let taken := takeRun f Char.isDigit s.length (s.dropWhile isBlank)
      if taken.1.isEmpty || maxCount < ofDecimalDigits taken.1 then none
      else some (ofDecimalDigits taken.1, behindCount f taken.2) := by
  -- blanks have been dropped exactly if one comes first, which no slash can hide
  have hbehind : ∀ u : List Char, (if (u.dropWhile isBlank).length < u.length then
      f.skip (u.dropWhile isBlank) else u.dropWhile isBlank) = behindCount f u := by
    intro u
    unfold behindCount
    cases u with
    | nil => rfl
    | cons c u =>
        by_cases hc : isBlank c = true
        · have hlen := (List.dropWhile_suffix (l := u) isBlank).length_le
          rw [List.dropWhile_cons_of_pos hc, List.length_cons, if_pos (Nat.lt_succ_of_le hlen)]
          exact (if_pos hc).symm
        · rw [List.dropWhile_cons_of_neg hc, if_neg (Nat.lt_irrefl _)]
          exact (if_neg hc).symm
  unfold readCount
  dsimp only
  split
  · rfl
  · rw [hbehind]

/-- The bounds, once the lower one is read with its comma. -/
def upperBound (f : Flags) (low : Nat) (s : List Char) : Option (Nat × Option Nat × List Char) :=
  match after? ['\x7d'] s with
  | some rest => some (low, none, rest)
  | none => (readCount f s).bind fun (high, u) =>
    if low ≤ high then (after? ['\x7d'] u).map (low, some high, ·) else none

/-- The bounds, once the lower one is read. -/
def boundsBehind (f : Flags) (low : Nat) (s : List Char) : Option (Nat × Option Nat × List Char) :=
  match after? [','] s with
  | some rest => upperBound f low (f.skip rest)
  | none => (after? ['\x7d'] s).map (low, some low, ·)

theorem readBounds_eq (s : List Char) :
    readBounds f s = (readCount f (f.skip s)).bind fun (low, rest) => boundsBehind f low rest := by
  unfold readBounds
  rcases readCount f (f.skip s) with _ | ⟨low, rest⟩
  · rfl
  · rw [Option.bind_some]
    split
    · rename_i heq
      exact absurd heq (Option.some_ne_none _)
    · rename_i heq
      obtain ⟨rfl, rfl⟩ := Prod.mk.inj (Option.some.inj heq)
      rename_i after
      change _ = upperBound f low (f.skip after)
      generalize f.skip after = t
      split
      · rfl
      · rename_i hbrace
        rw [upperBound, after?_eq_none fun u hu => hbrace u hu]
        split
        · rename_i heq
          rw [heq]
          rfl
        · rename_i hclose
          rcases hread : readCount f t with _ | ⟨high, u⟩
          · rfl
          · have hnone : after? ['\x7d'] u = none :=
              after?_eq_none fun v hv => hclose high v (by rw [hread, hv]; rfl)
            dsimp only [Option.bind_some]
            rw [hnone]
            split <;> rfl
    · rename_i heq
      obtain ⟨rfl, rfl⟩ := Prod.mk.inj (Option.some.inj heq)
      rfl
    · rename_i hcomma hbrace heq
      obtain rfl := Option.some.inj heq
      have h₁ : after? [','] rest = none :=
        after?_eq_none fun u hu => hcomma low u (by rw [hu]; rfl)
      have h₂ : after? ['\x7d'] rest = none :=
        after?_eq_none fun u hu => hbrace low u (by rw [hu]; rfl)
      dsimp only [boundsBehind]
      rw [h₁, h₂]
      rfl

end Gapfill.Pattern
