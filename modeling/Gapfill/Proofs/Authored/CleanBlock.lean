import Gapfill.Proofs.Authored.BareAnchor

/-!
# Blocks without faults

A block passes four tests: it has an end, its text begins with brackets, its
letters are option letters, and no expression in it has a bare anchor. A
`CleanBlock` holds the pieces of a text that passes them. Reading gives no
diagnostic exactly for those blocks, and what it gives is then a function of the
pieces (`CleanBlock.readBlockBody_eq`, `exists_cleanBlock`). The places in the
text that reading carries along are for diagnostics only; the expressions do not
depend on them (`bodies_texts`).
-/

namespace Gapfill

/-! ## Expressions without their places -/

/-- The expressions of a block whose text comes behind the first brackets. -/
def bodyTexts (inner : List Char) : List (List Char) := (bodies 0 inner).map (·.2)

theorem bodiesFrom_texts : ∀ {text current : List Char} {skip pos pos' start start' : Nat},
    (bodiesFrom pos skip start current text).map (·.2) =
      (bodiesFrom pos' skip start' current text).map (·.2)
  | [], _, skip, _, _, _, _ => by cases skip <;> rfl
  | c :: rest, current, skip + 1, pos, pos', _, _ => by
      rw [bodiesFrom, bodiesFrom]
      exact bodiesFrom_texts
  | c :: rest, current, 0, pos, pos', start, start' => by
      rw [bodiesFrom, bodiesFrom]
      cases boundaryLength? (c :: rest) with
      | none => exact bodiesFrom_texts
      | some n => exact congrArg (current.reverse :: ·) bodiesFrom_texts

theorem bodies_texts (pos : Nat) (inner : List Char) :
    (bodies pos inner).map (·.2) = bodyTexts inner := bodiesFrom_texts

theorem bodiesFrom_ne_nil : ∀ {text current : List Char} {skip pos start : Nat},
    bodiesFrom pos skip start current text ≠ []
  | [], _, skip, _, _ => by cases skip <;> exact List.cons_ne_nil _ _
  | c :: rest, _, skip + 1, _, _ => by
      rw [bodiesFrom]
      exact bodiesFrom_ne_nil
  | c :: rest, _, 0, _, _ => by
      rw [bodiesFrom]
      cases boundaryLength? (c :: rest) with
      | none => exact bodiesFrom_ne_nil
      | some n => exact List.cons_ne_nil _ _

theorem bodyTexts_ne_nil (inner : List Char) : bodyTexts inner ≠ [] :=
  mt List.map_eq_nil_iff.mp bodiesFrom_ne_nil

theorem anchorProblems_eq_nil_iff {found : List (Nat × List Char)} :
    anchorProblems found = [] ↔ ∀ body ∈ found.map (·.2), ¬ HasBareAnchor body := by
  unfold anchorProblems
  rw [List.filterMap_eq_nil_iff, List.forall_mem_map]
  refine forall₂_congr fun start _ => ?_
  rw [Option.map_eq_none_iff, bareAnchor?_eq_none_iff]

/-! ## Clean blocks -/

/-- The pieces of a text that begins with a block without faults; a percentage before the block
is left aside. -/
structure CleanBlock (options : Options) (text : List Char) where
  /-- What comes before the end. -/
  raw : List Char
  ending : BlockEnd
  rest : List Char
  cut : cutAtBlockEnd text = some (raw, ending, rest)
  /-- The expressions, without the first brackets and the last. -/
  inner : List Char
  brackets : trim raw = '[' :: '[' :: inner
  no_anchor : ∀ body ∈ bodyTexts inner, ¬ HasBareAnchor body
  /-- The options after the letters. -/
  resolved : Options
  letters : options.setAll ending.letters = .ok resolved

namespace CleanBlock

variable {options : Options} {text : List Char}

/-- What the block adds to its field. -/
def subPattern (b : CleanBlock options text) (weight : Nat) : SubPattern :=
  ⟨(bodyTexts b.inner).map String.ofList, weight, String.ofList b.ending.letters, b.resolved⟩

theorem subPattern_regexes_ne_nil (b : CleanBlock options text) (weight : Nat) :
    (b.subPattern weight).regexes ≠ [] :=
  mt List.map_eq_nil_iff.mp (bodyTexts_ne_nil b.inner)

/-- A clean block is read without a diagnostic. -/
theorem readBlockBody_eq (b : CleanBlock options text) (source : List Char) (first : Bool)
    (weight pos : Nat) :
    readBlockBody options source first weight pos text =
      ⟨[], some (b.subPattern weight),
        some (skipBlanks (pos + utf8Length b.raw + b.ending.length) b.rest)⟩ := by
  unfold readBlockBody
  simp only [b.cut, b.brackets, b.letters]
  generalize hfound : bodies ((skipBlanks pos b.raw).1 + 2) b.inner = found
  have htexts : found.map (·.2) = bodyTexts b.inner := hfound ▸ bodies_texts _ b.inner
  have hregexes : (found.map fun body => String.ofList body.2) =
      (b.subPattern weight).regexes := by
    rw [subPattern, ← htexts, List.map_map]
    rfl
  rw [anchorProblems_eq_nil_iff.mpr (htexts ▸ b.no_anchor), hregexes,
    if_neg (mt List.isEmpty_iff.mp (b.subPattern_regexes_ne_nil weight))]
  rfl

end CleanBlock

/-- Where reading gives no diagnostic, the block is clean. -/
theorem exists_cleanBlock {options : Options} {source text : List Char} {first : Bool}
    {weight pos : Nat}
    (h : (readBlockBody options source first weight pos text).diagnostics = []) :
    Nonempty (CleanBlock options text) := by
  unfold readBlockBody at h
  split at h
  · simp [BlockReading.stop] at h
  · rename_i raw e rest hcut
    dsimp only at h
    split at h
    · rename_i inner hinner
      split at h
      · simp [BlockReading.stop] at h
      · rename_i resolved hset
        refine ⟨⟨raw, e, rest, hcut, inner, hinner, ?_, resolved, hset⟩⟩
        rw [← bodies_texts]
        exact anchorProblems_eq_nil_iff.mp h
    · split at h
      · simp [BlockReading.stop] at h
      · split at h
        · simp [BlockReading.stop] at h
        · simp at h

end Gapfill
