import Gapfill.Proofs.Authored.KeyLines
import Gapfill.Proofs.Authored.WrittenBlock
import Gapfill.Proofs.ParsedField

/-!
# Fields as they are written

A `WrittenField` is a first block, more blocks each behind its percentage, and key
lines. Its text is read as just the field that it stands for, if all its patterns
compile (`WrittenField.parse_text`). The proof goes over the blocks from the first
to the last: each is clean with the rest of the text behind it, and the blanks
that follow are skipped up to the percentage of the next one, or to the keys.
Carriage returns are dropped before anything is read; they may stand among the
blanks and in the values, and there they do not count
(`WrittenField.dropReturns_text`).
-/

namespace Gapfill

/-! ## Percentages -/

theorem readPercentage_decimalDigits {weight : Nat} (hle : weight ≤ fullWeight)
    {c : Char} (hc : c.isDigit = false) (rest : List Char) :
    readPercentage ('%' :: (decimalDigits weight ++ c :: rest)) =
      .ok (weight, (decimalDigits weight).length + 1, c :: rest) := by
  have hdigits : ∀ d ∈ decimalDigits weight, d.isDigit = true :=
    fun d hd => isDigit_of_mem_decimalDigits hd
  unfold readPercentage
  simp only [takeWhile_append_cons hdigits hc, dropWhile_append_cons hdigits hc,
    ofDecimalDigits_decimalDigits]
  rw [if_neg (by simp [decimalDigits, Nat.toDigits_ne_nil]), if_neg (Nat.not_lt.mpr hle)]

/-! ## Blocks behind a percentage -/

/-- A block, its weight, and the blanks between the percentage and the brackets. -/
structure WeightedBlock where
  weight : Nat
  lead : List Char
  block : WrittenBlock

namespace WeightedBlock

def text (b : WeightedBlock) : List Char :=
  '%' :: (decimalDigits b.weight ++ (b.lead ++ b.block.text))

def subPattern (b : WeightedBlock) : SubPattern := b.block.subPattern b.weight

structure Valid (b : WeightedBlock) : Prop where
  weight_le : b.weight ≤ fullWeight
  lead : ∀ c ∈ b.lead, isBlank c = true
  block : b.block.Valid

end WeightedBlock

/-- Blocks one behind the other. -/
def blocksText (more : List WeightedBlock) : List Char := (more.map WeightedBlock.text).flatten

/-! ## Reading block after block -/

/-- The keys do not begin with a blank or with a percent sign. -/
def KeysBegin (keys : List Char) : Prop := ∀ c ∈ keys.head?, isKeyChar c = true

theorem skipBlanks_append {trail text : List Char} (htrail : ∀ c ∈ trail, isBlank c = true)
    (htext : ∀ c ∈ text.head?, isBlank c = false) (pos : Nat) :
    skipBlanks pos (trail ++ text) = (pos + utf8Length trail, text) := by
  unfold skipBlanks trimStart
  rw [takeWhile_run htrail htext, dropWhile_run htrail htext]

theorem readBlock_first {b : WrittenBlock} (h : b.Valid) (source after : List Char) (pos : Nat) :
    ∃ n, readBlock .default source true pos (b.text ++ after) =
      ⟨[], some (b.subPattern fullWeight), some (skipBlanks n (b.trail ++ after))⟩ := by
  have hlead : ∀ c ∈ ([] : List Char), isBlank c = true := fun _ hc => absurd hc List.not_mem_nil
  have hread := (WrittenBlock.clean h hlead after).readBlockBody_eq source true fullWeight pos
  rw [WrittenBlock.clean_subPattern] at hread
  exact ⟨_, hread⟩

theorem readBlock_more {b : WeightedBlock} (h : b.Valid) (source after : List Char) (pos : Nat) :
    ∃ n, readBlock .default source false pos (b.text ++ after) =
      ⟨[], some b.subPattern, some (skipBlanks n (b.block.trail ++ after))⟩ := by
  have htext : b.text ++ after =
      '%' :: (decimalDigits b.weight ++ (b.lead ++ (b.block.text ++ after))) := by
    simp [WeightedBlock.text]
  -- behind the digits come blanks or a bracket
  obtain ⟨c, rest, hrest, hc⟩ : ∃ c rest, b.lead ++ (b.block.text ++ after) = c :: rest
      ∧ c.isDigit = false := by
    cases hlead : b.lead with
    | nil => exact ⟨'[', _, rfl, by decide⟩
    | cons c lead =>
        exact ⟨c, _, rfl, isDigit_eq_false_of_isBlank (h.lead c (hlead ▸ List.mem_cons_self))⟩
  have hpercentage := readPercentage_decimalDigits h.weight_le hc rest
  have hread := (WrittenBlock.clean h.block h.lead after).readBlockBody_eq source false b.weight
    (pos + ((decimalDigits b.weight).length + 1))
  rw [WrittenBlock.clean_subPattern] at hread
  have hbody : readBlock .default source false pos (b.text ++ after) =
      readBlockBody .default source false b.weight (pos + ((decimalDigits b.weight).length + 1))
        (b.lead ++ (b.block.text ++ after)) := by
    unfold readBlock
    rw [if_neg Bool.false_ne_true, htext, hrest, hpercentage]
  exact ⟨_, hbody.trans hread⟩

theorem readBlocks_written {source keys : List Char} (hkeys : KeysBegin keys) :
    ∀ {more : List WeightedBlock} {fuel : Nat} {first : Bool} {pos n : Nat}
      {text trail : List Char} {sub : SubPattern}, more.length ≤ fuel →
      (∀ b ∈ more, b.Valid) → (∀ c ∈ trail, isBlank c = true) →
      readBlock .default source first pos text =
        ⟨[], some sub, some (skipBlanks n (trail ++ (blocksText more ++ keys)))⟩ →
      ∃ m, readBlocks .default source (fuel + 1) first pos text =
        ⟨[], sub :: more.map WeightedBlock.subPattern, some (m, keys)⟩
  | [], fuel, first, pos, n, text, trail, sub, _, _, htrail, hread => by
      have hskip : skipBlanks n (trail ++ (blocksText [] ++ keys)) = (n + utf8Length trail, keys) :=
        skipBlanks_append htrail
          (fun c hc => KeyLine.not_blank_of_isKeyChar (hkeys c hc)) n
      refine ⟨n + utf8Length trail, ?_⟩
      rw [readBlocks, hread, hskip]
      dsimp only
      split
      · rename_i pos' rest heq
        -- a key does not begin with a percent sign
        obtain rfl : keys = '%' :: rest := (Prod.mk.inj (Option.some.inj heq)).2
        exact absurd (hkeys '%' rfl) (by decide)
      · rfl
  | b :: more, fuel, first, pos, n, text, trail, sub, hfuel, hmore, htrail, hread => by
      obtain ⟨hb, hmore⟩ := List.forall_mem_cons.mp hmore
      obtain ⟨fuel, rfl⟩ := Nat.exists_eq_add_one_of_ne_zero
        (Nat.ne_of_gt (Nat.lt_of_lt_of_le (Nat.succ_pos more.length) hfuel))
      have htext : blocksText (b :: more) ++ keys = b.text ++ (blocksText more ++ keys) := by
        simp [blocksText]
      rw [htext] at hread
      have hskip : skipBlanks n (trail ++ (b.text ++ (blocksText more ++ keys))) =
          (n + utf8Length trail, b.text ++ (blocksText more ++ keys)) :=
        skipBlanks_append htrail (fun c hc => by
          obtain rfl : '%' = c := Option.some.inj hc
          decide) n
      obtain ⟨k, hnext⟩ := readBlock_more hb source (blocksText more ++ keys)
        (n + utf8Length trail)
      obtain ⟨m, hrest⟩ := readBlocks_written hkeys (Nat.le_of_succ_le_succ hfuel) hmore
        hb.block.trail hnext
      refine ⟨m, ?_⟩
      rw [readBlocks, hread, hskip]
      simp only [WeightedBlock.text, List.cons_append] at hrest ⊢
      rw [hrest]
      rfl

theorem length_le_blocksText : ∀ (more : List WeightedBlock),
    more.length ≤ (blocksText more).length
  | [] => Nat.le_refl 0
  | b :: more => by
      have hmore := length_le_blocksText more
      simp only [blocksText, List.map_cons, List.flatten_cons, List.length_append,
        List.length_cons, WeightedBlock.text] at hmore ⊢
      omega

/-! ## Written fields -/

theorem keysBegin_keyLinesText (lines : List KeyLine) : KeysBegin (keyLinesText lines) := by
  intro c hc
  cases lines with
  | nil => simp [keyLinesText] at hc
  | cons line lines =>
      obtain ⟨d, name, hname⟩ := List.exists_cons_of_ne_nil (KeyLine.name_ne_nil line.key)
      have hhead : (keyLinesText (line :: lines)).head? = some d := by
        cases lines <;> simp [keyLinesText, KeyLine.text, hname]
      obtain rfl : d = c := Option.some.inj (hhead.symm.trans hc)
      exact KeyLine.name_chars line.key d (hname ▸ List.mem_cons_self)

/-- A text is read if its first block is followed by blocks and key lines that are. -/
theorem Field.parseSource_of_block {flavor : Flavor} {source trail : List Char} {n : Nat}
    {sub : SubPattern} {more : List WeightedBlock} {lines : List KeyLine} {field : Field}
    (hstart : ∀ c ∈ source.head?, isBlank c = false)
    (hread : readBlock .default source true 0 source =
      ⟨[], some sub, some (skipBlanks n (trail ++ (blocksText more ++ keyLinesText lines)))⟩)
    (htrail : ∀ c ∈ trail, isBlank c = true)
    (hfuel : more.length ≤ source.length) (hmore : ∀ b ∈ more, b.Valid)
    (hlines : ∀ line ∈ lines, line.Valid flavor)
    (horder : lines.Pairwise fun a b => flavor.place a.key ≤ flavor.place b.key)
    (hset : KeyLine.setAll lines
      { Field.empty with subPatterns := sub :: more.map WeightedBlock.subPattern } = field)
    (hcompiles : field.compileProblems = []) : Field.parseSource flavor source = .ok field := by
  have hskip : skipBlanks 0 ([] ++ source) = (0, source) :=
    skipBlanks_append (fun _ hc => absurd hc List.not_mem_nil) hstart 0
  rw [List.nil_append] at hskip
  obtain ⟨m, hblocks⟩ := readBlocks_written (keysBegin_keyLinesText lines) hfuel hmore htrail hread
  have hkeys := readKeys_keyLinesText hlines horder
    { Field.empty with subPatterns := sub :: more.map WeightedBlock.subPattern } m
  rw [hset] at hkeys
  unfold Field.parseSource
  rw [hskip]
  dsimp only
  rw [hblocks]
  dsimp only
  rw [hkeys]
  dsimp only
  rw [hcompiles]
  rfl

/-- A field as it is written: a first block, the blocks behind percentages, and key lines. -/
structure WrittenField where
  first : WrittenBlock
  more : List WeightedBlock
  lines : List KeyLine

namespace WrittenField

def text (w : WrittenField) : List Char :=
  w.first.text ++ (blocksText w.more ++ keyLinesText w.lines)

/-- The first block is worth the whole. -/
def subPatterns (w : WrittenField) : List SubPattern :=
  w.first.subPattern fullWeight :: w.more.map WeightedBlock.subPattern

theorem parseSource_text {flavor : Flavor} {w : WrittenField} (hfirst : w.first.Valid)
    (hmore : ∀ b ∈ w.more, b.Valid) (hlines : ∀ line ∈ w.lines, line.Valid flavor)
    (horder : w.lines.Pairwise fun a b => flavor.place a.key ≤ flavor.place b.key)
    {field : Field} (hset : KeyLine.setAll w.lines { Field.empty with subPatterns := w.subPatterns }
      = field)
    (hcompiles : field.compileProblems = []) : Field.parseSource flavor w.text = .ok field := by
  have hstart : ∀ c ∈ w.text.head?, isBlank c = false := fun c hc => by
    obtain rfl : '[' = c := Option.some.inj hc
    decide
  have hfuel : w.more.length ≤ w.text.length := by
    have := length_le_blocksText w.more
    simp only [text, List.length_append]
    omega
  obtain ⟨n, hread⟩ := readBlock_first hfirst w.text
    (blocksText w.more ++ keyLinesText w.lines) 0
  exact Field.parseSource_of_block hstart hread hfirst.trail hfuel hmore hlines horder hset
    hcompiles

end WrittenField

/-! ## Carriage returns -/

/-- The text as it is read. -/
def dropReturns (text : List Char) : List Char := text.filter (· != '\r')

theorem dropReturns_append (u v : List Char) :
    dropReturns (u ++ v) = dropReturns u ++ dropReturns v := List.filter_append ..

theorem dropReturns_eq_self {text : List Char} (h : '\r' ∉ text) : dropReturns text = text :=
  List.filter_eq_self.mpr fun _ hc => bne_iff_ne.mpr fun heq => h (heq ▸ hc)

theorem mem_of_mem_dropReturns {text : List Char} {c : Char} (h : c ∈ dropReturns text) :
    c ∈ text := (List.mem_filter.mp h).1

theorem not_return_of_isGapBlank {blanks : List Char} (h : ∀ c ∈ blanks, isGapBlank c = true) :
    '\r' ∉ blanks := fun hmem => absurd (h _ hmem) (by decide)

theorem not_return_joined : ∀ {others : List (List Char × List Char)} {body : List Char},
    '\r' ∉ body → (∀ other ∈ others, (∀ c ∈ other.1, isGapBlank c = true) ∧ '\r' ∉ other.2) →
      '\r' ∉ joinedBodies body others
  | [], _, hbody, _ => hbody
  | (blanks, next) :: others, body, hbody, h => by
      obtain ⟨⟨hblanks, hnext⟩, hothers⟩ := List.forall_mem_cons.mp h
      have hrest := not_return_joined hnext hothers
      simp [joinedBodies, boundaryText, hbody, hrest, not_return_of_isGapBlank hblanks]

theorem BlockEnd.Valid.not_return {e : BlockEnd} (h : e.Valid) : '\r' ∉ e.text := by
  have hletters : '\r' ∉ e.letters := fun hmem => absurd (h.letters _ hmem) (by decide)
  simp [text, hletters, not_return_of_isGapBlank h.blanks]

/-- The block without the carriage returns among its blanks. -/
def WrittenBlock.dropReturns (b : WrittenBlock) : WrittenBlock :=
  { b with trail := Gapfill.dropReturns b.trail }

theorem WrittenBlock.Valid.dropReturns {b : WrittenBlock} (h : b.Valid) : b.dropReturns.Valid :=
  { h with trail := fun c hc => h.trail c (mem_of_mem_dropReturns hc) }

theorem WrittenBlock.dropReturns_text {b : WrittenBlock} (h : b.Valid) :
    Gapfill.dropReturns b.text = b.dropReturns.text := by
  have hjoined : '\r' ∉ joinedBodies b.body b.others :=
    not_return_joined (h.bodies b.body List.mem_cons_self).no_return
      fun other hother => ⟨(h.others other hother).1, (h.others other hother).2.no_return⟩
  have hfront : Gapfill.dropReturns ('[' :: '[' :: joinedBodies b.body b.others) =
      '[' :: '[' :: joinedBodies b.body b.others := dropReturns_eq_self (by simp [hjoined])
  calc Gapfill.dropReturns b.text
      = Gapfill.dropReturns (('[' :: '[' :: joinedBodies b.body b.others)
          ++ (b.ending.text ++ b.trail)) := rfl
    _ = b.dropReturns.text := by
        rw [dropReturns_append, dropReturns_append, hfront, dropReturns_eq_self h.ending.not_return]
        rfl

def WeightedBlock.dropReturns (b : WeightedBlock) : WeightedBlock :=
  { b with lead := Gapfill.dropReturns b.lead, block := b.block.dropReturns }

theorem WeightedBlock.Valid.dropReturns {b : WeightedBlock} (h : b.Valid) :
    b.dropReturns.Valid where
  weight_le := h.weight_le
  lead c hc := h.lead c (mem_of_mem_dropReturns hc)
  block := h.block.dropReturns

theorem WeightedBlock.dropReturns_text {b : WeightedBlock} (h : b.Valid) :
    Gapfill.dropReturns b.text = b.dropReturns.text := by
  have hdigits : '\r' ∉ '%' :: decimalDigits b.weight := by
    refine List.not_mem_cons_of_ne_of_not_mem (by decide) fun hmem => ?_
    exact absurd (isDigit_of_mem_decimalDigits hmem) (by decide)
  calc Gapfill.dropReturns b.text
      = Gapfill.dropReturns (('%' :: decimalDigits b.weight) ++ (b.lead ++ b.block.text)) := rfl
    _ = b.dropReturns.text := by
        rw [dropReturns_append, dropReturns_append, dropReturns_eq_self hdigits,
          b.block.dropReturns_text h.block]
        rfl

theorem dropReturns_blocksText : ∀ {more : List WeightedBlock}, (∀ b ∈ more, b.Valid) →
    dropReturns (blocksText more) = blocksText (more.map WeightedBlock.dropReturns)
  | [], _ => rfl
  | b :: more, h => by
      obtain ⟨hb, hmore⟩ := List.forall_mem_cons.mp h
      have hrest := dropReturns_blocksText hmore
      simp only [blocksText, List.map_cons, List.flatten_cons] at hrest ⊢
      rw [dropReturns_append, hrest, b.dropReturns_text hb]

/-- The line with its value as it is read. -/
def KeyLine.dropReturns (line : KeyLine) : KeyLine :=
  { line with value := Gapfill.dropReturns line.value }

theorem KeyLine.dropReturns_text (line : KeyLine) :
    Gapfill.dropReturns line.text = line.dropReturns.text := by
  have hname : '\r' ∉ line.key.name.toList := fun hmem =>
    absurd (KeyLine.name_chars line.key _ hmem) (by decide)
  unfold KeyLine.text
  rw [dropReturns_append, dropReturns_eq_self hname]
  rfl

theorem dropReturns_keyLinesText : ∀ (lines : List KeyLine),
    dropReturns (keyLinesText lines) = keyLinesText (lines.map KeyLine.dropReturns)
  | [] => rfl
  | [line] => by simp [keyLinesText, line.dropReturns_text]
  | line :: next :: lines => by
      have hrest := dropReturns_keyLinesText (next :: lines)
      simp only [keyLinesText, List.map_cons, List.intercalate_cons_cons] at hrest ⊢
      rw [dropReturns_append, dropReturns_append, hrest, line.dropReturns_text]
      rfl

namespace WrittenField

def dropReturns (w : WrittenField) : WrittenField :=
  ⟨w.first.dropReturns, w.more.map WeightedBlock.dropReturns, w.lines.map KeyLine.dropReturns⟩

/-! ## Reading back what was written -/

/-- What a field may be composed of. A value counts as it is read. -/
structure Valid (flavor : Flavor) (w : WrittenField) : Prop where
  first : w.first.Valid
  more : ∀ b ∈ w.more, b.Valid
  lines : ∀ line ∈ w.lines, line.dropReturns.Valid flavor
  order : w.lines.Pairwise fun a b => flavor.place a.key ≤ flavor.place b.key

/-- The value of the last line with this key. -/
def value? (w : WrittenField) (key : Key) : Option (List Char) :=
  lastValue? key (w.lines.map KeyLine.dropReturns)

/-- The field that the text stands for. -/
def field (w : WrittenField) : Field :=
  { Field.empty with
    subPatterns := w.subPatterns
    separator := ((w.value? .separator).map readSeparator).getD Field.empty.separator
    points := ((w.value? .points).map (pointsOf ∘ trim)).getD Field.empty.points
    size := ((w.value? .size).map (ofDecimalDigits ∘ trim)).getD Field.empty.size
    feedback := (w.value? .feedback).map (String.ofList ∘ trim)
    comment := (w.value? .comment).map (String.ofList ∘ trim) }

theorem setAll_eq_field (w : WrittenField) :
    KeyLine.setAll w.dropReturns.lines { Field.empty with subPatterns := w.subPatterns }
      = w.field := by
  have hsome : ∀ last : Option (List Char), (last.map (some ∘ String.ofList ∘ trim)).getD none =
      last.map (String.ofList ∘ trim) := by
    intro last
    cases last <;> rfl
  rw [setAll_eq]
  unfold field value?
  rw [← hsome, ← hsome]
  rfl

theorem dropReturns_text {flavor : Flavor} {w : WrittenField} (h : w.Valid flavor) :
    Gapfill.dropReturns w.text = w.dropReturns.text := by
  unfold text
  rw [dropReturns_append, dropReturns_append, w.first.dropReturns_text h.first,
    dropReturns_blocksText h.more, dropReturns_keyLinesText]
  rfl

theorem dropReturns_subPatterns (w : WrittenField) : w.dropReturns.subPatterns = w.subPatterns := by
  unfold subPatterns
  simp only [dropReturns, List.map_map]
  rfl

/-- The text of a field is read as the field that it stands for, if all patterns compile. -/
theorem parse_text {flavor : Flavor} {w : WrittenField} (h : w.Valid flavor)
    (hcompiles : ∀ sub ∈ w.subPatterns,
      ∃ compiled, Compiled.ofSubPattern sub w.field.separator .default = .ok compiled) :
    Field.parse flavor (String.ofList w.text) = .ok w.field := by
  have hmore : ∀ b ∈ w.dropReturns.more, b.Valid :=
    List.forall_mem_map.mpr fun b hb => (h.more b hb).dropReturns
  have hlines : ∀ line ∈ w.dropReturns.lines, line.Valid flavor :=
    List.forall_mem_map.mpr h.lines
  have horder : w.dropReturns.lines.Pairwise fun a b => flavor.place a.key ≤ flavor.place b.key :=
    List.pairwise_map.mpr h.order
  have hset := w.dropReturns_subPatterns ▸ w.setAll_eq_field
  unfold Field.parse
  rw [String.toList_ofList]
  change Field.parseSource flavor (Gapfill.dropReturns w.text) = _
  rw [dropReturns_text h]
  exact parseSource_text h.first.dropReturns hmore hlines horder hset
    (Field.compileProblems_eq_nil_iff.mpr hcompiles)

/-- Two expressions in any order, of which brackets and slashes are a part, or a blank and a
percentage for half of the points. -/
def bracketsAndSlashes : WrittenField where
  first :=
    ⟨"[[:digit:]]".toList, [(" \n".toList, "[a/b]/".toList)], ⟨['\t'], ['O', 's']⟩, "\r\n".toList⟩
  more := [⟨50, [' '], ⟨" %7".toList, [], ⟨[], []⟩, ['\n']⟩⟩]
  lines :=
    [⟨.separator, [';']⟩, ⟨.points, " 2.50".toList⟩, ⟨.points, "03".toList⟩,
      ⟨.comment, "c\r".toList⟩]

theorem parse_bracketsAndSlashes :
    bracketsAndSlashes.Valid .cloze
      ∧ (∀ sub ∈ bracketsAndSlashes.subPatterns, ∃ compiled,
        Compiled.ofSubPattern sub bracketsAndSlashes.field.separator .default = .ok compiled)
      ∧ Field.parse .cloze (String.ofList bracketsAndSlashes.text) =
        .ok bracketsAndSlashes.field := by
  have hvalid : bracketsAndSlashes.Valid .cloze := {
    first := by decide +kernel
    more := List.forall_mem_singleton.mpr
      ⟨by decide, List.all_eq_true.mp (by decide), by decide +kernel⟩
    lines := by decide +kernel
    order := by decide +kernel }
  have hcompiles := Field.compileProblems_eq_nil_iff.mp
    (show bracketsAndSlashes.field.compileProblems = [] by decide +kernel)
  exact ⟨hvalid, hcompiles, parse_text hvalid hcompiles⟩

end WrittenField

end Gapfill
