import Gapfill.Proofs.Authored.Values
import Gapfill.Proofs.Text.Runs
import Gapfill.Proofs.Text.Split

/-!
# Lines of keys, written and read

Lines `key=value` that come in the order of the flavor and have values of the
right form are read without a diagnostic (`readKeys_keyLinesText`). While the
lines are read, the keys that may still come are an end of the list of all keys,
which begins at the last key read; the order of the lines keeps the next key
within it. What the field has in the end is, key by key, the value of the last
line with that key (`setAll_eq`).
-/

namespace Gapfill

/-! ## Cutting at newlines -/

/-- Lines that are joined by newlines are cut at just these. -/
theorem splitLines_intercalate : ∀ {lines : List (List Char)}, lines ≠ [] →
    (∀ line ∈ lines, '\n' ∉ line) → splitLines (['\n'].intercalate lines) = lines
  | [], hne, _ => absurd rfl hne
  | [line], _, h => by
      rw [List.intercalate_singleton]
      exact splitFrom_of_notMem (h line List.mem_cons_self) []
  | line :: next :: lines, _, h => by
      obtain ⟨hline, hrest⟩ := List.forall_mem_cons.mp h
      rw [List.intercalate_cons_cons, List.append_assoc]
      have hcut : splitFrom ['\n'] 0 [] (line ++ '\n' :: ['\n'].intercalate (next :: lines)) = _ :=
        splitFrom_append_cons line _ []
      rw [splitFrom_of_notMem hline] at hcut
      exact hcut.trans (congrArg (line :: ·)
        (splitLines_intercalate (List.cons_ne_nil next lines) hrest))

/-! ## Key lines -/

/-- A line that sets a key. -/
structure KeyLine where
  key : Key
  value : List Char

namespace KeyLine

/-- The line as it is written. -/
def text (line : KeyLine) : List Char := line.key.name.toList ++ '=' :: line.value

/-- The flavor has the key, and the value is one that the key can have. -/
structure Valid (flavor : Flavor) (line : KeyLine) : Prop where
  allowed : line.key ∈ flavor.keys
  one_line : '\n' ∉ line.value
  points : line.key = .points → isPointsText (trim line.value) = true
  size : line.key = .size → IsSizeText (trim line.value)

instance (flavor : Flavor) (line : KeyLine) : Decidable (line.Valid flavor) :=
  decidable_of_iff (line.key ∈ flavor.keys ∧ '\n' ∉ line.value
      ∧ (line.key = .points → isPointsText (trim line.value) = true)
      ∧ (line.key = .size → IsSizeText (trim line.value)))
    ⟨fun ⟨hallowed, hline, hpoints, hsize⟩ => ⟨hallowed, hline, hpoints, hsize⟩,
      fun ⟨hallowed, hline, hpoints, hsize⟩ => ⟨hallowed, hline, hpoints, hsize⟩⟩

/-- The field with the value of the line. -/
def set (line : KeyLine) (field : Field) : Field :=
  match line.key with
  | .separator => { field with separator := readSeparator line.value }
  | .points => { field with points := pointsOf (trim line.value) }
  | .size => { field with size := ofDecimalDigits (trim line.value) }
  | .feedback => { field with feedback := some (String.ofList (trim line.value)) }
  | .comment => { field with comment := some (String.ofList (trim line.value)) }

variable {flavor : Flavor} {line : KeyLine}

theorem Valid.setKey_eq (h : line.Valid flavor) (field : Field) :
    field.setKey line.key line.value = .ok (line.set field) := by
  obtain ⟨key, value⟩ := line
  cases key with
  | points =>
      have hpoints := readPoints_eq (h.points rfl)
      simp only [Field.setKey, hpoints, set]
  | size =>
      have hsize := readSize_eq (h.size rfl)
      simp only [Field.setKey, hsize, set]
  | separator | feedback | comment => rfl

theorem name_chars (key : Key) : ∀ c ∈ key.name.toList, isKeyChar c = true :=
  List.all_eq_true.mp (by cases key <;> decide +kernel)

theorem name_ne_nil (key : Key) : key.name.toList ≠ [] := by
  cases key <;> decide +kernel

theorem not_newline_of_isKeyChar {c : Char} (h : isKeyChar c = true) : c ≠ '\n' := by
  rintro rfl
  exact absurd h (by decide)

theorem not_blank_of_isKeyChar {c : Char} (h : isKeyChar c = true) : isBlank c = false := by
  obtain ⟨hlow, hhigh⟩ := Bool.and_eq_true_iff.mp h
  exact isBlank_eq_false_of_printable
    (Nat.le_trans (by decide) (UInt32.le_iff_toNat_le.mp (of_decide_eq_true hlow)))
    (Nat.le_trans (UInt32.le_iff_toNat_le.mp (of_decide_eq_true hhigh)) (by decide))

theorem ofName?_name (key : Key) : Key.ofName? key.name = some key := by
  cases key <;> decide +kernel

theorem readKeyLine_text (line : KeyLine) :
    readKeyLine line.text = some (line.key.name, line.value) := by
  have hstop : isKeyChar '=' = false := by decide
  have htake : line.text.takeWhile isKeyChar = line.key.name.toList := by
    rw [text, List.takeWhile_append_of_pos (name_chars line.key),
      List.takeWhile_cons_of_neg (by simp [hstop]), List.append_nil]
  have hdrop : line.text.dropWhile isKeyChar = '=' :: line.value := by
    rw [text, List.dropWhile_append_of_pos (name_chars line.key),
      List.dropWhile_cons_of_neg (by simp [hstop])]
  unfold readKeyLine
  simp only [htake, hdrop]
  rw [if_neg (mt List.isEmpty_iff.mp (name_ne_nil line.key)), String.ofList_toList]

theorem text_not_blank (line : KeyLine) : isBlankText line.text = false := by
  obtain ⟨c, name, hname⟩ := List.exists_cons_of_ne_nil (name_ne_nil line.key)
  have hc := not_blank_of_isKeyChar (name_chars line.key c (hname ▸ List.mem_cons_self))
  simp [isBlankText, text, hname, hc]

theorem Valid.text_one_line (h : line.Valid flavor) : '\n' ∉ line.text := by
  intro hmem
  rcases List.mem_append.mp hmem with hname | hvalue
  · exact not_newline_of_isKeyChar (name_chars line.key _ hname) rfl
  · rcases List.mem_cons.mp hvalue with heq | hvalue
    · exact absurd heq (by decide)
    · exact h.one_line hvalue

end KeyLine

/-! ## The order of keys -/

/-- The place of a key in the order of the flavor. -/
def Flavor.place (flavor : Flavor) (key : Key) : Nat := flavor.keys.idxOf key

theorem mem_drop_of_le_idxOf {key : Key} : ∀ {keys : List Key} {n : Nat}, key ∈ keys →
    n ≤ keys.idxOf key → key ∈ keys.drop n
  | [], _, hmem, _ => absurd hmem List.not_mem_nil
  | _, 0, hmem, _ => hmem
  | other :: keys, n + 1, hmem, hle => by
      have hne : other ≠ key := by
        rintro rfl
        simp at hle
      rw [List.idxOf_cons, beq_false_of_ne hne, cond_false] at hle
      rw [List.drop_succ_cons]
      exact mem_drop_of_le_idxOf ((List.mem_cons.mp hmem).resolve_left hne.symm)
        (Nat.le_of_succ_le_succ hle)

/-- The keys that may come after a key begin with it. -/
theorem dropWhile_drop_of_le_idxOf {key : Key} : ∀ {keys : List Key} {n : Nat},
    n ≤ keys.idxOf key → (keys.drop n).dropWhile (· != key) = keys.drop (keys.idxOf key)
  | [], n, _ => by simp
  | other :: keys, n, hle => by
      by_cases heq : other = key
      · subst heq
        obtain rfl : n = 0 := by simpa using hle
        simp
      · rw [List.idxOf_cons, beq_false_of_ne heq, cond_false] at hle ⊢
        cases n with
        | zero =>
            rw [List.drop_zero, List.dropWhile_cons_of_pos (by simp [heq]), List.drop_succ_cons]
            exact dropWhile_drop_of_le_idxOf (n := 0) (Nat.zero_le _)
        | succ n => exact dropWhile_drop_of_le_idxOf (Nat.le_of_succ_le_succ hle)

/-! ## Reading the lines -/

theorem KeysState.readLine_text {flavor : Flavor} {line : KeyLine} (h : line.Valid flavor)
    {allowed : List Key} (hallowed : line.key ∈ allowed) (field : Field) (pos : Nat) :
    readLine flavor ⟨field, allowed⟩ pos line.text =
      (⟨line.set field, allowed.dropWhile (· != line.key)⟩, []) := by
  unfold readLine
  rw [line.text_not_blank, line.readKeyLine_text]
  simp only [KeyLine.ofName?_name, h.setKey_eq, List.contains_iff_mem.mpr h.allowed,
    List.contains_iff_mem.mpr hallowed]
  rfl

/-- Sets one line after the other. -/
def KeyLine.setAll (lines : List KeyLine) (field : Field) : Field :=
  lines.foldl (fun field line => line.set field) field

theorem KeysState.readLines_text {flavor : Flavor} : ∀ {lines : List KeyLine} {n : Nat},
    (∀ line ∈ lines, line.Valid flavor ∧ n ≤ flavor.place line.key) →
      lines.Pairwise (fun a b => flavor.place a.key ≤ flavor.place b.key) →
      ∀ (pos : Nat) (field : Field), ∃ allowed,
        readLines flavor ⟨field, flavor.keys.drop n⟩ pos (lines.map KeyLine.text) =
          (⟨KeyLine.setAll lines field, allowed⟩, [])
  | [], n, _, _, _, _ => ⟨flavor.keys.drop n, rfl⟩
  | line :: lines, n, h, horder, pos, field => by
      obtain ⟨⟨hline, hplace⟩, hlines⟩ := List.forall_mem_cons.mp h
      obtain ⟨hfirst, hrest⟩ := List.pairwise_cons.mp horder
      have hread := readLine_text hline (mem_drop_of_le_idxOf hline.allowed hplace) field pos
      obtain ⟨allowed, hmore⟩ := readLines_text
        (fun other hother => ⟨(hlines other hother).1, hfirst other hother⟩) hrest
        (pos + utf8Length line.text + 1) (line.set field)
      refine ⟨allowed, ?_⟩
      rw [List.map_cons, readLines, hread]
      dsimp only
      rw [dropWhile_drop_of_le_idxOf hplace]
      exact congrArg (fun result => (result.1, [] ++ result.2)) hmore

/-- Key lines as they stand below each other. -/
def keyLinesText (lines : List KeyLine) : List Char :=
  ['\n'].intercalate (lines.map KeyLine.text)

/-- Lines in order are read without a diagnostic. -/
theorem readKeys_keyLinesText {flavor : Flavor} {lines : List KeyLine}
    (hvalid : ∀ line ∈ lines, line.Valid flavor)
    (horder : lines.Pairwise fun a b => flavor.place a.key ≤ flavor.place b.key)
    (field : Field) (pos : Nat) :
    readKeys flavor field pos (keyLinesText lines) = (KeyLine.setAll lines field, []) := by
  unfold readKeys
  cases lines with
  | nil =>
      -- an empty text is one blank line
      rfl
  | cons line lines =>
      have hcut : splitLines (keyLinesText (line :: lines)) = (line :: lines).map KeyLine.text :=
        splitLines_intercalate (List.cons_ne_nil _ _)
          (List.forall_mem_map.mpr fun line hline => (hvalid line hline).text_one_line)
      obtain ⟨allowed, hread⟩ := KeysState.readLines_text (n := 0)
        (fun line hline => ⟨hvalid line hline, Nat.zero_le _⟩) horder pos field
      rw [hcut]
      exact congrArg (fun result => (result.1.field, result.2)) hread

/-! ## The last value of a key -/

/-- The value of the last line with this key. -/
def lastValue? (key : Key) (lines : List KeyLine) : Option (List Char) :=
  ((lines.filter (·.key = key)).getLast?).map (·.value)

theorem lastValue?_cons (key : Key) (line : KeyLine) (lines : List KeyLine) :
    lastValue? key (line :: lines) =
      if line.key = key then some ((lastValue? key lines).getD line.value)
      else lastValue? key lines := by
  unfold lastValue?
  by_cases h : line.key = key
  · rw [List.filter_cons_of_pos (by simpa using h), List.getLast?_cons, if_pos h]
    cases (lines.filter (·.key = key)).getLast? <;> rfl
  · rw [List.filter_cons_of_neg (by simpa using h), if_neg h]

/-- Each property is set by the last line with its key, and left alone without any. -/
theorem setAll_eq : ∀ (lines : List KeyLine) (field : Field), KeyLine.setAll lines field =
    { field with
      separator := ((lastValue? .separator lines).map readSeparator).getD field.separator
      points := ((lastValue? .points lines).map (pointsOf ∘ trim)).getD field.points
      size := ((lastValue? .size lines).map (ofDecimalDigits ∘ trim)).getD field.size
      feedback :=
        ((lastValue? .feedback lines).map (some ∘ String.ofList ∘ trim)).getD field.feedback
      comment :=
        ((lastValue? .comment lines).map (some ∘ String.ofList ∘ trim)).getD field.comment }
  | [], _ => rfl
  | ⟨key, value⟩ :: lines, field => by
      change KeyLine.setAll lines (KeyLine.set ⟨key, value⟩ field) = _
      rw [setAll_eq lines]
      cases key with
      | separator => simp [KeyLine.set, lastValue?_cons]
      | points =>
          simpa [KeyLine.set, lastValue?_cons] using Option.getD_map (pointsOf ∘ trim) value _
      | size =>
          simpa [KeyLine.set, lastValue?_cons] using
            Option.getD_map (ofDecimalDigits ∘ trim) value _
      | feedback | comment =>
          simpa [KeyLine.set, lastValue?_cons] using
            Option.getD_map (some ∘ String.ofList ∘ trim) value _

end Gapfill
