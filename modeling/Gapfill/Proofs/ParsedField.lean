import Gapfill.Authored.FieldText
import Gapfill.Proofs.Authored.CleanBlock
import Gapfill.Proofs.Authored.Values

/-!
# What a field that was read can be relied on

A field is put together while problems are still being collected: a block with a
fault may be left out, and a key may change the separator after the patterns were
read. `Field.WellFormed` says what holds of a field in the end. Its parts come
from the three phases of reading, each of which keeps its part where it gives no
diagnostic: the blocks (`readBlocks_wellFormed`), the keys, one line at a time
(`Field.Keyed.setKey`), and the test that all patterns compile, which comes last
and so sees the separator that stays.

`Field.Sound` is the part that grading needs.
-/

namespace Gapfill

/-! ## Blocks -/

/-- A sub-pattern as reading leaves it. -/
structure SubPattern.WellFormed (sub : SubPattern) : Prop where
  weight_le : sub.weight ≤ fullWeight
  regexes_ne_nil : sub.regexes ≠ []
  resolved : Options.default.withLetters sub.rawOptions = .ok sub.options
  no_anchor : ∀ body ∈ sub.regexes, ¬ HasBareAnchor body.toList

theorem CleanBlock.subPattern_wellFormed {text : List Char} (b : CleanBlock .default text)
    {weight : Nat} (hweight : weight ≤ fullWeight) : (b.subPattern weight).WellFormed where
  weight_le := hweight
  regexes_ne_nil := b.subPattern_regexes_ne_nil weight
  resolved := by
    change Options.default.setAll (String.ofList b.ending.letters).toList = .ok b.resolved
    rw [String.toList_ofList]
    exact b.letters
  no_anchor := by
    refine List.forall_mem_map.mpr fun body hbody => ?_
    rw [String.toList_ofList]
    exact b.no_anchor body hbody

theorem readPercentage_le {text rest : List Char} {weight length : Nat}
    (h : readPercentage text = .ok (weight, length, rest)) : weight ≤ fullWeight := by
  unfold readPercentage at h
  split at h
  · dsimp only at h
    split at h
    · simp at h
    · split at h
      · simp at h
      · rename_i hle
        obtain ⟨rfl, -⟩ := Prod.mk.inj (Except.ok.inj h)
        exact Nat.le_of_not_lt hle
  · simp at h

/-- A block that gives no diagnostic gives a sub-pattern; the first one is worth the whole. -/
theorem readBlock_wellFormed {source text : List Char} {first : Bool} {pos : Nat}
    (h : (readBlock .default source first pos text).diagnostics = []) :
    ∃ sub, (readBlock .default source first pos text).subPattern = some sub ∧ sub.WellFormed
      ∧ (first = true → sub.weight = fullWeight) := by
  unfold readBlock at h ⊢
  split at h
  · rename_i hfirst
    obtain ⟨b⟩ := exists_cleanBlock h
    rw [if_pos hfirst, b.readBlockBody_eq]
    exact ⟨_, rfl, b.subPattern_wellFormed (Nat.le_refl _), fun _ => rfl⟩
  · rename_i hfirst
    rw [if_neg hfirst]
    split at h
    · simp [BlockReading.stop] at h
    · rename_i weight length rest hpercentage
      obtain ⟨b⟩ := exists_cleanBlock h
      simp only [b.readBlockBody_eq]
      exact ⟨_, rfl, b.subPattern_wellFormed (readPercentage_le hpercentage),
        fun h => absurd h hfirst⟩

theorem readBlocks_wellFormed {source : List Char} : ∀ {fuel : Nat} {first : Bool} {pos : Nat}
    {text : List Char}, (readBlocks .default source fuel first pos text).diagnostics = [] →
      ∀ sub ∈ (readBlocks .default source fuel first pos text).subPatterns, sub.WellFormed
  | 0, _, _, _, _ => by simp [readBlocks]
  | fuel + 1, first, pos, text, h => by
      rw [readBlocks] at h ⊢
      dsimp only at h ⊢
      split at h
      · obtain ⟨hblock, hmore⟩ := List.append_eq_nil_iff.mp h
        obtain ⟨sub, hsub, hwell, -⟩ := readBlock_wellFormed hblock
        rw [hsub]
        exact List.forall_mem_cons.mpr ⟨hwell, readBlocks_wellFormed hmore⟩
      · obtain ⟨sub, hsub, hwell, -⟩ := readBlock_wellFormed h
        rw [hsub]
        exact List.forall_mem_singleton.mpr hwell

theorem readBlocks_first {source text : List Char} {fuel pos : Nat}
    (h : (readBlocks .default source (fuel + 1) true pos text).diagnostics = []) :
    ∃ sub rest, (readBlocks .default source (fuel + 1) true pos text).subPatterns = sub :: rest
      ∧ sub.weight = fullWeight := by
  rw [readBlocks] at h ⊢
  dsimp only at h ⊢
  split at h
  · obtain ⟨sub, hsub, -, hfull⟩ := readBlock_wellFormed (List.append_eq_nil_iff.mp h).1
    rw [hsub]
    exact ⟨sub, _, rfl, hfull rfl⟩
  · obtain ⟨sub, hsub, -, hfull⟩ := readBlock_wellFormed h
    rw [hsub]
    exact ⟨sub, [], rfl, hfull rfl⟩

/-! ## Keys -/

/-- What the keys of a flavor leave of a field: its values are in range, and what no key sets is
as in the empty field. -/
structure Field.Keyed (flavor : Flavor) (field : Field) : Prop where
  points_pos : Binary64.lt 0 field.points = true
  size_pos : 1 ≤ field.size
  separator_ne : field.separator ≠ ""
  gap_none : field.gap = none
  fraction_one : field.fraction = 1
  single : flavor = .single →
    field.points = Field.empty.points ∧ field.size = Field.empty.size

theorem Field.Keyed.empty (flavor : Flavor) (subs : List SubPattern) :
    Field.Keyed flavor { Field.empty with subPatterns := subs } where
  points_pos := Binary64.positive_iff.mpr ⟨_, _, Binary64.one_eq, Binary64.oneRank_pos⟩
  size_pos := show 1 ≤ 5 by decide
  separator_ne := show "\n" ≠ "" by decide
  gap_none := rfl
  fraction_one := rfl
  single _ := ⟨rfl, rfl⟩

/-- A key that the flavor knows keeps the values in range. -/
theorem Field.Keyed.setKey {flavor : Flavor} {field field' : Field} {key : Key}
    {value : List Char} (h : field.Keyed flavor) (hkey : key ∈ flavor.keys)
    (hset : field.setKey key value = .ok field') : field'.Keyed flavor := by
  -- points and sizes are no keys of the single flavor
  have hsingle : key = .points ∨ key = .size → flavor ≠ .single := by
    rintro hkind rfl
    rcases hkind with rfl | rfl <;> simp [Flavor.keys] at hkey
  unfold Field.setKey at hset
  cases key <;> dsimp only at hset
  case separator =>
      obtain rfl := Except.ok.inj hset
      exact { h with separator_ne := readSeparator_ne_empty value }
  case feedback | comment =>
      obtain rfl := Except.ok.inj hset
      exact { h with }
  case points =>
      split at hset
      · rename_i points hpoints
        obtain rfl := Except.ok.inj hset
        exact { h with
          points_pos := Binary64.positive_iff.mpr (readPoints_atLeastSixteenth hpoints).positive
          single := fun heq => absurd heq (hsingle (.inl rfl)) }
      · simp at hset
  case size =>
      split at hset
      · rename_i size hsize
        obtain rfl := Except.ok.inj hset
        exact { h with
          size_pos := one_le_of_readSize hsize
          single := fun heq => absurd heq (hsingle (.inr rfl)) }
      · simp at hset

theorem Field.setKey_subPatterns {field field' : Field} {key : Key} {value : List Char}
    (hset : field.setKey key value = .ok field') : field'.subPatterns = field.subPatterns := by
  unfold Field.setKey at hset
  cases key <;> dsimp only at hset
  case separator | feedback | comment => exact Except.ok.inj hset ▸ rfl
  case points | size =>
      split at hset
      · exact Except.ok.inj hset ▸ rfl
      · simp at hset

/-- What every key of the flavor keeps, the lines keep. -/
theorem KeysState.readLines_preserves {flavor : Flavor} {P : Field → Prop}
    (hkeep : ∀ {field field' key value}, P field → key ∈ flavor.keys →
      Field.setKey field key value = .ok field' → P field') :
    ∀ {lines : List (List Char)} {state : KeysState} {pos : Nat}, P state.field →
      P (state.readLines flavor pos lines).1.field
  | [], _, _, h => h
  | line :: rest, state, pos, h => by
      rw [readLines]
      refine readLines_preserves hkeep ?_
      unfold readLine
      split
      · exact h
      · split
        · exact h
        · split
          · split
            · rename_i key _ hkey
              dsimp only
              split
              · rename_i field hset
                exact hkeep h (List.contains_iff_mem.mp hkey) hset
              · exact h
            · exact h
          · exact h

theorem readKeys_preserves {flavor : Flavor} {P : Field → Prop}
    (hkeep : ∀ {field field' key value}, P field → key ∈ flavor.keys →
      Field.setKey field key value = .ok field' → P field')
    {field : Field} {pos : Nat} {text : List Char} (h : P field) :
    P (readKeys flavor field pos text).1 :=
  KeysState.readLines_preserves hkeep h

/-! ## The whole field -/

namespace Field

/-- A field as reading leaves it. -/
structure WellFormed (flavor : Flavor) (field : Field) : Prop extends field.Keyed flavor where
  /-- There is a first sub-pattern, and it is worth the whole. -/
  first : ∃ sub rest, field.subPatterns = sub :: rest ∧ sub.weight = fullWeight
  subPatterns : ∀ sub ∈ field.subPatterns, sub.WellFormed
  compiles : ∀ sub ∈ field.subPatterns,
    ∃ compiled, Compiled.ofSubPattern sub field.separator .default = .ok compiled
  /-- Grading meets no pattern that is refused. -/
  usable : ∀ sub ∈ field.subPatterns, ∀ e,
    Compiled.ofStored sub field.separator .default ≠ .unusable e

theorem compileProblems_eq_nil_iff {field : Field} : field.compileProblems = [] ↔
    ∀ sub ∈ field.subPatterns,
      ∃ compiled, Compiled.ofSubPattern sub field.separator .default = .ok compiled := by
  unfold compileProblems
  rw [List.filterMap_eq_nil_iff]
  refine forall₂_congr fun sub _ => ?_
  cases Compiled.ofSubPattern sub field.separator .default <;> simp

/-- What compiles is not stored as unusable. -/
theorem ofStored_ne_unusable {sub : SubPattern} {separator : String} {limits : Limits}
    {compiled : Compiled} (h : Compiled.ofSubPattern sub separator limits = .ok compiled)
    (e : CompileError) : Compiled.ofStored sub separator limits ≠ .unusable e := by
  unfold Compiled.ofStored
  rw [h]
  unfold Compiled.ofSubPattern at h
  dsimp only at h
  rintro rfl
  split at h
  · cases hms : Compiled.compileEach sub.options limits _ with
    | error e => rw [hms] at h; simp [Except.map] at h
    | ok ms => rw [hms] at h; simp [Except.map] at h
  · cases hm : Matcher.compile _ sub.options limits with
    | error e => rw [hm] at h; simp [Except.map] at h
    | ok m => rw [hm] at h; simp [Except.map] at h

/-- The three phases through which a field that was read has come. -/
theorem parse_phases {flavor : Flavor} {text : String} {field : Field}
    (h : Field.parse flavor text = .ok field) :
    ∃ source fuel start rest keysAt keys,
      (readBlocks .default source (fuel + 1) true start rest).diagnostics = []
        ∧ field = (readKeys flavor { Field.empty with
              subPatterns := (readBlocks .default source (fuel + 1) true start rest).subPatterns }
            keysAt keys).1
        ∧ field.compileProblems = [] := by
  unfold Field.parse parseSource at h
  dsimp only at h
  split at h
  · simp at h
  · rename_i keysAt keys hrest
    split at h
    · rename_i hdiagnostics
      split at h
      · rename_i hcompiles
        obtain rfl := Except.ok.inj h
        exact ⟨_, _, _, _, keysAt, keys, (List.append_eq_nil_iff.mp hdiagnostics).1, rfl,
          hcompiles⟩
      · simp at h
    · simp at h

theorem parse_keyed {flavor : Flavor} {text : String} {field : Field}
    (h : Field.parse flavor text = .ok field) : field.Keyed flavor := by
  obtain ⟨source, fuel, start, rest, keysAt, keys, -, rfl, -⟩ := parse_phases h
  exact readKeys_preserves (fun h hkey hset => h.setKey hkey hset) (Keyed.empty flavor _)

theorem parse_subPatterns {flavor : Flavor} {text : String} {field : Field}
    (h : Field.parse flavor text = .ok field) :
    (∃ sub rest, field.subPatterns = sub :: rest ∧ sub.weight = fullWeight)
      ∧ ∀ sub ∈ field.subPatterns, sub.WellFormed := by
  obtain ⟨source, fuel, start, rest, keysAt, keys, hblocks, rfl, -⟩ := parse_phases h
  -- no key changes the patterns
  rw [readKeys_preserves (P := fun field => field.subPatterns = _)
    (fun h _ hset => (setKey_subPatterns hset).trans h) rfl]
  exact ⟨readBlocks_first hblocks, readBlocks_wellFormed hblocks⟩

theorem parse_compiles {flavor : Flavor} {text : String} {field : Field}
    (h : Field.parse flavor text = .ok field) : ∀ sub ∈ field.subPatterns,
      ∃ compiled, Compiled.ofSubPattern sub field.separator .default = .ok compiled := by
  obtain ⟨source, fuel, start, rest, keysAt, keys, -, -, hcompiles⟩ := parse_phases h
  exact compileProblems_eq_nil_iff.mp hcompiles

/-- A text is read if the reader of characters gives a field. -/
theorem parse_ofList {flavor : Flavor} {text : List Char} {field : Field}
    (h : (parseSource flavor (text.filter (· != '\r'))).toOption = some field) :
    Field.parse flavor (String.ofList text) = .ok field := by
  unfold Field.parse
  rw [String.toList_ofList]
  cases hresult : parseSource flavor (text.filter (· != '\r')) with
  | error diagnostics =>
      rw [hresult] at h
      simp [Except.toOption] at h
  | ok parsed =>
      rw [hresult] at h
      exact congrArg Except.ok (Option.some.inj h)

/-- A field that was read is well-formed. -/
theorem wellFormed_of_parse {flavor : Flavor} {text : String} {field : Field}
    (h : Field.parse flavor text = .ok field) : field.WellFormed flavor where
  toKeyed := parse_keyed h
  first := (parse_subPatterns h).1
  subPatterns := (parse_subPatterns h).2
  compiles := parse_compiles h
  usable sub hsub e := by
    obtain ⟨compiled, hcompiled⟩ := parse_compiles h sub hsub
    exact ofStored_ne_unusable hcompiled e

/-- Two lines in any order, or one of them for half of the points. -/
def twoLinesText : List Char := "[[a]] [[b]]/O/\n%50 [[a|b]]//\nseparator=;\npoints=2".toList

def twoLines : Field :=
  { Field.empty with
    subPatterns :=
      [⟨["a", "b"], 100, "O", { Options.default with anyOrder := true }⟩,
        ⟨["a|b"], 50, "", .default⟩]
    separator := ";"
    points := 2 }

theorem wellFormed_twoLines :
    Field.parse .cloze (String.ofList twoLinesText) = .ok twoLines
      ∧ twoLines.WellFormed .cloze := by
  have hparse : Field.parse .cloze (String.ofList twoLinesText) = .ok twoLines :=
    parse_ofList (by decide +kernel)
  exact ⟨hparse, wellFormed_of_parse hparse⟩

/-! ## What grading needs -/

/-- Percentages are not beyond the whole, points are positive, and an alternative of the single
flavor has the one point that a field has without keys. -/
structure Sound (flavor : Flavor) (field : Field) : Prop where
  weights : ∀ sub ∈ field.subPatterns, sub.weight ≤ fullWeight
  positive : field.points.Positive
  single : flavor = .single → field.points = 1

/-- What is read from a text is sound. -/
theorem parse_sound {flavor : Flavor} {text : String} {field : Field}
    (h : Field.parse flavor text = .ok field) : field.Sound flavor where
  weights sub hsub := ((parse_subPatterns h).2 sub hsub).weight_le
  positive := Binary64.positive_iff.mp (parse_keyed h).points_pos
  single hflavor := ((parse_keyed h).single hflavor).1

end Field

end Gapfill
