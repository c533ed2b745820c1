import Gapfill.Proofs.Authored.WrittenField
import Gapfill.Proofs.Building
import Gapfill.Proofs.DiagnosticPlaces

/-!
# How key lines are judged

Behind its blocks every line of a text is judged: what is wrong with it depends
on the line and on those before it only (`Flavor.Judges`). A key is late if some
earlier line has a key that stands behind it in the order of the flavor, whether
that line was itself late, or had a bad value, or not.

The reader does not look back. It keeps the keys that may still come, an end of
the list of all keys, and the invariant `KeysState.Follows` says of that end that
it begins at the greatest place of an earlier key; a late key leaves it as it is.
One line keeps the invariant (`KeysState.readLine_judged`), so by induction all
lines do (`KeysState.readLines_judged`), and `Field.keyLines_judged` says it of a
text whose blocks are fine.

Which values are right is told apart from how they are tested: `PointsText` and
`IsSizeText` are the forms of texts for points and sizes, and the tests let pass
just these (`isPointsText_iff`, `readSize_eq_none_iff`).
-/

namespace Gapfill

/-! ## Texts for points and sizes -/

/-- A text for points: a positive decimal number, whose first place behind the point is not zero if
there are only zeros before it. -/
inductive PointsText : List Char → Prop where
  /-- Zeros, and places the first of which is not zero. -/
  | tenths {zeros places : List Char} {d : Char} (hne : zeros ≠ []) (hzeros : ∀ c ∈ zeros, c = '0')
      (hd : isNonzeroDigit d = true) (hplaces : ∀ c ∈ places, c.isDigit = true) :
      PointsText (zeros ++ '.' :: d :: places)
  /-- A whole number. -/
  | whole {zeros digits : List Char} {d : Char} (hzeros : ∀ c ∈ zeros, c = '0')
      (hd : isNonzeroDigit d = true) (hdigits : ∀ c ∈ digits, c.isDigit = true) :
      PointsText (zeros ++ d :: digits)
  /-- A whole number with places behind it. -/
  | decimal {zeros digits places : List Char} {d : Char} (hzeros : ∀ c ∈ zeros, c = '0')
      (hd : isNonzeroDigit d = true) (hdigits : ∀ c ∈ digits, c.isDigit = true)
      (hne : places ≠ []) (hplaces : ∀ c ∈ places, c.isDigit = true) :
      PointsText (zeros ++ d :: digits ++ '.' :: places)

theorem isDigit_of_nonzero {d : Char} (h : isNonzeroDigit d = true) : d.isDigit = true :=
  (Bool.and_eq_true_iff.mp h).1

theorem isDigit_of_zeros {zeros : List Char} (h : ∀ c ∈ zeros, c = '0') :
    ∀ c ∈ zeros, c.isDigit = true := fun c hc => h c hc ▸ by decide

theorem isDigit_of_whole {zeros digits : List Char} {d : Char} (hzeros : ∀ c ∈ zeros, c = '0')
    (hd : isNonzeroDigit d = true) (hdigits : ∀ c ∈ digits, c.isDigit = true) :
    ∀ c ∈ zeros ++ d :: digits, c.isDigit = true :=
  List.forall_mem_append.mpr ⟨isDigit_of_zeros hzeros,
    List.forall_mem_cons.mpr ⟨isDigit_of_nonzero hd, hdigits⟩⟩

/-- Before the first digit that is not zero there are zeros only. -/
theorem exists_zeros {digits : List Char} (hdigits : ∀ c ∈ digits, c.isDigit = true)
    (hany : digits.any isNonzeroDigit = true) :
    ∃ zeros d rest, digits = zeros ++ d :: rest ∧ (∀ c ∈ zeros, c = '0')
      ∧ isNonzeroDigit d = true ∧ ∀ c ∈ rest, c.isDigit = true := by
  induction digits with
  | nil => simp at hany
  | cons c digits ih =>
      obtain ⟨hc, hrest⟩ := List.forall_mem_cons.mp hdigits
      by_cases hzero : c = '0'
      · have hany' : digits.any isNonzeroDigit = true := by
          simpa [hzero, isNonzeroDigit] using hany
        obtain ⟨zeros, d, rest, rfl, hzeros, hd, hdigits'⟩ := ih hrest hany'
        exact ⟨c :: zeros, d, rest, rfl, List.forall_mem_cons.mpr ⟨hzero, hzeros⟩, hd, hdigits'⟩
      · exact ⟨[], c, digits, rfl, by simp, by simp [isNonzeroDigit, hc, hzero], hrest⟩

/-- Digits none of which is other than zero. -/
theorem zeros_of_digits {digits : List Char} (hdigits : ∀ c ∈ digits, c.isDigit = true)
    (hany : digits.any isNonzeroDigit = false) : ∀ c ∈ digits, c = '0' := by
  intro c hc
  have hnot := List.any_eq_false.mp hany c hc
  simpa [isNonzeroDigit, hdigits c hc] using hnot

/-- What the test for points lets pass has one of the three forms. -/
theorem PointsText.of_isPointsText {value : List Char} (h : isPointsText value = true) :
    PointsText value := by
  have hdigits : ∀ c ∈ value.takeWhile Char.isDigit, c.isDigit = true :=
    fun c hc => List.mem_takeWhile_imp hc
  obtain ⟨hne, h⟩ := Bool.and_eq_true_iff.mp h
  rw [← List.takeWhile_append_dropWhile (p := Char.isDigit) (l := value)]
  split at h
  · rename_i hnone
    obtain ⟨zeros, d, rest, hwhole, hzeros, hd, hrest⟩ := exists_zeros hdigits h
    rw [hnone, hwhole, List.append_nil]
    exact .whole hzeros hd hrest
  · rename_i places hplaces
    simp only [Bool.and_eq_true, List.all_eq_true] at h
    obtain ⟨⟨hplaces_ne, hplaces_digits⟩, hnonzero⟩ := h
    rw [hplaces]
    cases hany : (value.takeWhile Char.isDigit).any isNonzeroDigit with
    | true =>
        obtain ⟨zeros, d, rest, hwhole, hzeros, hd, hrest⟩ := exists_zeros hdigits hany
        rw [hwhole]
        exact .decimal hzeros hd hrest (by simpa using hplaces_ne) hplaces_digits
    | false =>
        cases places with
        | nil => simp at hplaces_ne
        | cons d places =>
            have hd : isNonzeroDigit d = true := by simpa [hany] using hnonzero
            exact .tenths (by simpa using hne) (zeros_of_digits hdigits hany) hd
              (List.forall_mem_cons.mp hplaces_digits).2
  · exact absurd h Bool.false_ne_true

theorem PointsText.isPointsText {value : List Char} (h : PointsText value) :
    isPointsText value = true := by
  have hpoint : ('.' : Char).isDigit = false := by decide
  rcases h with ⟨hne, hzeros, hd, hplaces⟩ | ⟨hzeros, hd, hrest⟩ | ⟨hzeros, hd, hrest, hne, hplaces⟩
  · rename_i zeros places d
    unfold Gapfill.isPointsText
    rw [takeWhile_append_cons (isDigit_of_zeros hzeros) hpoint,
      dropWhile_append_cons (isDigit_of_zeros hzeros) hpoint]
    simp [hne, hd, isDigit_of_nonzero hd, List.all_eq_true.mpr hplaces]
  · rename_i zeros digits d
    have hall := isDigit_of_whole hzeros hd hrest
    unfold Gapfill.isPointsText
    rw [List.takeWhile_eq_self_iff.mpr hall, List.dropWhile_eq_nil_iff.mpr hall]
    simp [hd]
  · rename_i zeros digits places d
    have hall := isDigit_of_whole hzeros hd hrest
    unfold Gapfill.isPointsText
    rw [takeWhile_append_cons hall hpoint, dropWhile_append_cons hall hpoint]
    simp [hne, hd, List.all_eq_true.mpr hplaces]

/-- The test for points lets pass just these texts. -/
theorem isPointsText_iff {value : List Char} : isPointsText value = true ↔ PointsText value :=
  ⟨.of_isPointsText, PointsText.isPointsText⟩

theorem readPoints_eq_none_iff {value : List Char} :
    readPoints value = none ↔ ¬ PointsText value := by
  rw [← isPointsText_iff]
  refine ⟨fun h hvalid => ?_, fun h => by rw [readPoints, if_neg h]⟩
  rw [readPoints_eq hvalid] at h
  exact Option.some_ne_none _ h

theorem readSize_eq_none_iff {value : List Char} : readSize value = none ↔ ¬ IsSizeText value := by
  refine ⟨fun h hvalid => ?_, fun h => ?_⟩
  · rw [readSize_eq hvalid] at h
    exact Option.some_ne_none _ h
  · unfold readSize
    rw [if_neg]
    rintro hvalid
    simp only [Bool.and_eq_true, List.all_eq_true, List.any_eq_true, decide_eq_true_eq] at hvalid
    obtain ⟨⟨hdigits, c, hc, hnonzero⟩, hle⟩ := hvalid
    exact h ⟨hdigits, ⟨c, hc, bne_iff_ne.mp (Bool.and_eq_true_iff.mp hnonzero).2⟩, hle⟩

/-! ## Judging a line -/

/-- A line that begins with small letters and an equals sign: the letters are its name, and its
value stands behind the sign. -/
structure IsKeyLine (name : String) (value line : List Char) : Prop where
  line_eq : line = name.toList ++ '=' :: value
  name_ne : name ≠ ""
  letters : ∀ c ∈ name.toList, 'a' ≤ c ∧ c ≤ 'z'

theorem readKeyLine_eq_some_iff {line value : List Char} {name : String} :
    readKeyLine line = some (name, value) ↔ IsKeyLine name value line := by
  constructor
  · intro h
    have hline := text_of_readKeyLine h
    unfold readKeyLine at h
    dsimp only at h
    split at h
    · split at h
      · cases h
      · rename_i hne
        obtain ⟨rfl, -⟩ := Prod.mk.inj (Option.some.inj h)
        refine ⟨hline, by simpa using hne, fun c hc => ?_⟩
        rw [String.toList_ofList] at hc
        simpa [isKeyChar] using List.mem_takeWhile_imp hc
    · cases h
  · rintro ⟨rfl, hne, hletters⟩
    have hrun : ∀ c ∈ name.toList, isKeyChar c = true := fun c hc => by
      simpa [isKeyChar] using hletters c hc
    have hstop : isKeyChar '=' = false := by decide
    unfold readKeyLine
    rw [takeWhile_append_cons hrun hstop, dropWhile_append_cons hrun hstop]
    simp [hne]

namespace IsKeyLine

variable {name name' : String} {value value' line : List Char}

/-- A key line begins with a letter. -/
theorem not_blank (h : IsKeyLine name value line) : isBlankText line = false := by
  obtain ⟨rfl, hne, hletters⟩ := h
  obtain ⟨c, rest, hname⟩ := List.exists_cons_of_ne_nil (mt String.toList_eq_nil_iff.mp hne)
  rw [hname] at hletters ⊢
  have hc := KeyLine.not_blank_of_isKeyChar
    (show isKeyChar c = true by simpa [isKeyChar] using hletters c List.mem_cons_self)
  simp [isBlankText, hc]

theorem unique (h : IsKeyLine name value line) (h' : IsKeyLine name' value' line) :
    name = name' ∧ value = value' := by
  rw [← readKeyLine_eq_some_iff] at h h'
  exact Prod.mk.inj (Option.some.inj (h.symm.trans h'))

end IsKeyLine

theorem Key.name_inj {key other : Key} (h : key.name = other.name) : key = other := by
  have hother := KeyLine.ofName?_name other
  rw [← h, KeyLine.ofName?_name] at hother
  exact Option.some.inj hother

/-- An earlier line has a key that stands behind this one in the order of the flavor. -/
def Flavor.IsLate (flavor : Flavor) (earlier : List (List Char)) (key : Key) : Prop :=
  ∃ line ∈ earlier, ∃ other value, IsKeyLine (Key.name other) value line
    ∧ other ∈ flavor.keys ∧ flavor.place key < flavor.place other

instance (value : List Char) : Decidable (PointsText value) :=
  decidable_of_iff _ isPointsText_iff

/-- What is wrong with the value of a key. -/
def Key.valueProblems (key : Key) (value : List Char) : List Problem :=
  match key with
  | points =>
    if PointsText (trim value) then [] else [.invalidPoints (String.ofList (trim value))]
  | size => if IsSizeText (trim value) then [] else [.invalidSize (String.ofList (trim value))]
  | separator | feedback | comment => []

/-- The problems of a line that comes behind the earlier lines. -/
structure Flavor.Judges (flavor : Flavor) (earlier : List (List Char)) (line : List Char)
    (problems : List Problem) : Prop where
  blank : isBlankText line = true → problems = []
  illegal : isBlankText line = false → (∀ name value, ¬ IsKeyLine name value line) →
    problems = [.illegalLine (String.ofList line)]
  unknown : ∀ name value, IsKeyLine name value line →
    (∀ key ∈ flavor.keys, Key.name key ≠ name) → problems = [.unknownKey name]
  late : ∀ key value, IsKeyLine (Key.name key) value line → key ∈ flavor.keys →
    flavor.IsLate earlier key →
    problems = .keyOrder key.name flavor.keyNames :: key.valueProblems value
  onTime : ∀ key value, IsKeyLine (Key.name key) value line → key ∈ flavor.keys →
    ¬ flavor.IsLate earlier key → problems = key.valueProblems value

namespace Flavor

variable {flavor : Flavor} {earlier : List (List Char)} {line : List Char}

/-- What a line is, as far as its problems go. -/
theorem line_cases (flavor : Flavor) (line : List Char) :
    isBlankText line = true
      ∨ (isBlankText line = false ∧ ∀ name value, ¬ IsKeyLine name value line)
      ∨ (∃ name value, IsKeyLine name value line ∧ ∀ key ∈ flavor.keys, Key.name key ≠ name)
      ∨ ∃ key value, IsKeyLine (Key.name key) value line ∧ key ∈ flavor.keys := by
  cases hblank : isBlankText line with
  | true => exact .inl rfl
  | false =>
      by_cases hline : ∃ name value, IsKeyLine name value line
      · obtain ⟨name, value, h⟩ := hline
        by_cases hkey : ∃ key ∈ flavor.keys, Key.name key = name
        · obtain ⟨key, hmem, rfl⟩ := hkey
          exact .inr (.inr (.inr ⟨key, value, h, hmem⟩))
        · exact .inr (.inr (.inl ⟨name, value, h, fun key hmem heq => hkey ⟨key, hmem, heq⟩⟩))
      · exact .inr (.inl ⟨rfl, fun name value h => hline ⟨name, value, h⟩⟩)

/-- A line is judged in one way. -/
theorem Judges.unique {problems problems' : List Problem}
    (h : flavor.Judges earlier line problems) (h' : flavor.Judges earlier line problems') :
    problems = problems' := by
  rcases flavor.line_cases line with hblank | ⟨hblank, hno⟩ | ⟨name, value, hline, hno⟩ |
    ⟨key, value, hline, hkey⟩
  · rw [h.blank hblank, h'.blank hblank]
  · rw [h.illegal hblank hno, h'.illegal hblank hno]
  · rw [h.unknown name value hline hno, h'.unknown name value hline hno]
  · by_cases hlate : flavor.IsLate earlier key
    · rw [h.late key value hline hkey hlate, h'.late key value hline hkey hlate]
    · rw [h.onTime key value hline hkey hlate, h'.onTime key value hline hkey hlate]

/-- What is left to show of a line without a key that the flavor has. -/
theorem judges_of_no_key {problems : List Problem}
    (hblank : isBlankText line = true → problems = [])
    (hillegal : isBlankText line = false → (∀ name value, ¬ IsKeyLine name value line) →
      problems = [.illegalLine (String.ofList line)])
    (hunknown : ∀ name value, IsKeyLine name value line → problems = [.unknownKey name])
    (hno : ∀ key ∈ flavor.keys, ∀ value, ¬ IsKeyLine (Key.name key) value line) :
    flavor.Judges earlier line problems where
  blank := hblank
  illegal := hillegal
  unknown name value h _ := hunknown name value h
  late key value h hkey _ := absurd h (hno key hkey value)
  onTime key value h hkey _ := absurd h (hno key hkey value)

/-- What is left to show of a line with a key that the flavor has. -/
theorem judges_of_key {key : Key} {value : List Char} {problems : List Problem}
    (hline : IsKeyLine key.name value line) (hkey : key ∈ flavor.keys)
    (hlate : flavor.IsLate earlier key →
      problems = .keyOrder key.name flavor.keyNames :: key.valueProblems value)
    (honTime : ¬ flavor.IsLate earlier key → problems = key.valueProblems value) :
    flavor.Judges earlier line problems where
  blank h := by simp [hline.not_blank] at h
  illegal _ hno := absurd hline (hno _ _)
  unknown name other h hno := absurd (hline.unique h).1 (hno key hkey)
  late other value' h _ hlate' := by
    obtain ⟨hname, rfl⟩ := hline.unique h
    obtain rfl := Key.name_inj hname
    exact hlate hlate'
  onTime other value' h _ hlate' := by
    obtain ⟨hname, rfl⟩ := hline.unique h
    obtain rfl := Key.name_inj hname
    exact honTime hlate'

end Flavor

/-! ## The keys that may still come -/

theorem Flavor.nodup_keys (flavor : Flavor) : flavor.keys.Nodup := by
  cases flavor <;> decide

theorem le_idxOf_of_mem_drop {key : Key} : ∀ {keys : List Key} {n : Nat}, keys.Nodup →
    key ∈ keys.drop n → n ≤ keys.idxOf key
  | _, 0, _, _ => Nat.zero_le _
  | [], n + 1, _, h => by simp at h
  | other :: keys, n + 1, hnodup, h => by
      obtain ⟨hother, hkeys⟩ := List.nodup_cons.mp hnodup
      rw [List.drop_succ_cons] at h
      have hne : other ≠ key := by
        rintro rfl
        exact hother (List.mem_of_mem_drop h)
      rw [List.idxOf_cons, beq_false_of_ne hne, cond_false]
      exact Nat.succ_le_succ (le_idxOf_of_mem_drop hkeys h)

theorem Flavor.mem_drop_iff {flavor : Flavor} {key : Key} (h : key ∈ flavor.keys) (n : Nat) :
    key ∈ flavor.keys.drop n ↔ n ≤ flavor.place key :=
  ⟨le_idxOf_of_mem_drop flavor.nodup_keys, mem_drop_of_le_idxOf h⟩

/-- The keys that may still come begin with the one, of those read so far, that stands last in the
order of the flavor. -/
def KeysState.Follows (flavor : Flavor) (earlier : List (List Char)) (state : KeysState) : Prop :=
  ∃ n, state.allowed = flavor.keys.drop n
    ∧ ∀ key, flavor.IsLate earlier key ↔ flavor.place key < n

theorem Flavor.isLate_concat {flavor : Flavor} {earlier : List (List Char)} {line : List Char}
    {key : Key} : flavor.IsLate (earlier ++ [line]) key ↔ flavor.IsLate earlier key
      ∨ ∃ other value, IsKeyLine (Key.name other) value line ∧ other ∈ flavor.keys
        ∧ flavor.place key < flavor.place other := by
  unfold IsLate
  simp only [List.mem_append, List.mem_singleton, or_and_right, exists_or, exists_eq_left]

/-- Before the first line every key may come. -/
theorem KeysState.follows_nil (flavor : Flavor) (field : Field) :
    Follows flavor [] ⟨field, flavor.keys⟩ :=
  ⟨0, rfl, fun key => by simp [Flavor.IsLate]⟩

namespace KeysState

variable {flavor : Flavor} {earlier : List (List Char)} {line : List Char} {state : KeysState}

theorem Follows.of_no_key {field : Field} (h : state.Follows flavor earlier)
    (hno : ∀ key ∈ flavor.keys, ∀ value, ¬ IsKeyLine (Key.name key) value line) :
    Follows flavor (earlier ++ [line]) ⟨field, state.allowed⟩ := by
  obtain ⟨n, hallowed, hlate⟩ := h
  refine ⟨n, hallowed, fun key => ?_⟩
  rw [Flavor.isLate_concat, hlate]
  refine or_iff_left ?_
  rintro ⟨other, value, hline, hother, -⟩
  exact hno other hother value hline

theorem Follows.isLate_iff {key : Key} (h : state.Follows flavor earlier)
    (hkey : key ∈ flavor.keys) : flavor.IsLate earlier key ↔ key ∉ state.allowed := by
  obtain ⟨n, hallowed, hlate⟩ := h
  rw [hlate, hallowed, Flavor.mem_drop_iff hkey, Nat.not_le]

/-- Behind a line with a key the keys begin with this one, unless it comes too late. -/
theorem Follows.of_key {key : Key} {value : List Char} {field : Field}
    (h : state.Follows flavor earlier) (hline : IsKeyLine key.name value line)
    (hkey : key ∈ flavor.keys) :
    Follows flavor (earlier ++ [line]) ⟨field, if state.allowed.contains key then
      state.allowed.dropWhile (· != key) else state.allowed⟩ := by
  obtain ⟨n, hallowed, hlate⟩ := h
  have hplace : ∀ other, flavor.IsLate (earlier ++ [line]) other ↔
      flavor.place other < n ∨ flavor.place other < flavor.place key := by
    intro other
    rw [Flavor.isLate_concat, hlate]
    refine or_congr_right ⟨?_, fun hlt => ⟨key, value, hline, hkey, hlt⟩⟩
    rintro ⟨key', value', hline', -, hlt⟩
    rwa [Key.name_inj (hline.unique hline').1]
  have hmem := Flavor.mem_drop_iff hkey n
  by_cases hin : n ≤ flavor.place key
  · refine ⟨flavor.place key, ?_, fun other => ?_⟩
    · simp [hallowed, hmem.mpr hin, dropWhile_drop_of_le_idxOf hin, Flavor.place]
    · rw [hplace]
      omega
  · refine ⟨n, ?_, fun other => ?_⟩
    · simp [hallowed, mt hmem.mp hin]
    · rw [hplace]
      omega

end KeysState

/-! ## One line after the other -/

/-- A key gets its value, unless there is something wrong with it. -/
theorem Field.setKey_cases (field : Field) (key : Key) (value : List Char) :
    (field.setKey key value = .ok (KeyLine.set ⟨key, value⟩ field) ∧ key.valueProblems value = [])
      ∨ ∃ problem, field.setKey key value = .error problem
        ∧ key.valueProblems value = [problem] := by
  cases key with
  | separator | feedback | comment => exact .inl ⟨rfl, rfl⟩
  | points =>
      by_cases h : PointsText (trim value)
      · refine .inl ⟨?_, if_pos h⟩
        simp only [setKey, readPoints_eq (isPointsText_iff.mpr h), KeyLine.set]
      · refine .inr ⟨_, ?_, if_neg h⟩
        simp only [setKey, readPoints_eq_none_iff.mpr h]
  | size =>
      by_cases h : IsSizeText (trim value)
      · refine .inl ⟨?_, if_pos h⟩
        simp only [setKey, readSize_eq h, KeyLine.set]
      · refine .inr ⟨_, ?_, if_neg h⟩
        simp only [setKey, readSize_eq_none_iff.mpr h]

/-- The line of a key that there is. -/
def KeyLine.ofLine? (line : List Char) : Option KeyLine :=
  (readKeyLine line).bind fun (name, value) => (Key.ofName? name).map fun key => ⟨key, value⟩

theorem KeyLine.ofLine?_eq_some_iff {line : List Char} {keyLine : KeyLine} :
    ofLine? line = some keyLine ↔ IsKeyLine keyLine.key.name keyLine.value line := by
  unfold ofLine?
  rw [Option.bind_eq_some_iff]
  constructor
  · rintro ⟨⟨name, value⟩, hread, hkey⟩
    obtain ⟨key, hname, rfl⟩ := Option.map_eq_some_iff.mp hkey
    rw [Key.name_of_ofName? hname]
    exact readKeyLine_eq_some_iff.mp hread
  · intro h
    refine ⟨_, readKeyLine_eq_some_iff.mpr h, ?_⟩
    dsimp only
    rw [ofName?_name]
    rfl

theorem KeyLine.ofLine?_eq_none {line : List Char}
    (h : ∀ key value, ¬ IsKeyLine (Key.name key) value line) : ofLine? line = none :=
  Option.eq_none_iff_forall_ne_some.mpr fun _ hsome => h _ _ (ofLine?_eq_some_iff.mp hsome)

namespace KeysState

variable {flavor : Flavor} {earlier : List (List Char)} {state : KeysState} {line : List Char}

theorem readLine_blank (h : isBlankText line = true) (pos : Nat) :
    readLine flavor state pos line = (state, []) := if_pos h

theorem readLine_illegal (h : isBlankText line = false)
    (hno : ∀ name value, ¬ IsKeyLine name value line) (pos : Nat) :
    readLine flavor state pos line =
      (state, [.at (.illegalLine (String.ofList line)) pos]) := by
  have hnone : readKeyLine line = none := Option.eq_none_iff_forall_ne_some.mpr
    fun ⟨name, value⟩ hsome => hno name value (readKeyLine_eq_some_iff.mp hsome)
  unfold readLine
  rw [h, hnone]
  rfl

theorem readLine_unknown {name : String} {value : List Char} (h : IsKeyLine name value line)
    (hno : ∀ key ∈ flavor.keys, Key.name key ≠ name) (pos : Nat) :
    readLine flavor state pos line = (state, [.at (.unknownKey name) pos]) := by
  unfold readLine
  rw [h.not_blank, readKeyLine_eq_some_iff.mpr h]
  dsimp only
  cases hkey : Key.ofName? name with
  | none => rfl
  | some key =>
      have hnot : ¬ flavor.keys.contains key = true := fun hmem =>
        hno key (List.contains_iff_mem.mp hmem) (Key.name_of_ofName? hkey)
      exact if_neg hnot

/-- The keys that may come behind a line with this key. -/
def allowedAfter (state : KeysState) (key : Key) : List Key :=
  if state.allowed.contains key then state.allowed.dropWhile (· != key) else state.allowed

/-- The problem of a key that comes too late. -/
def orderProblems (flavor : Flavor) (state : KeysState) (key : Key) : List Problem :=
  if state.allowed.contains key then [] else [.keyOrder key.name flavor.keyNames]

section

variable {key : Key} {value : List Char}

theorem readLine_of_setKey_ok (state : KeysState) (h : IsKeyLine key.name value line)
    (hkey : key ∈ flavor.keys) (pos : Nat) {field : Field}
    (hset : state.field.setKey key value = .ok field) :
    readLine flavor state pos line = (⟨field, state.allowedAfter key⟩,
      (state.orderProblems flavor key).map (Diagnostic.at · pos)) := by
  unfold readLine allowedAfter orderProblems
  rw [h.not_blank, readKeyLine_eq_some_iff.mpr h]
  simp only [KeyLine.ofName?_name, List.contains_iff_mem.mpr hkey, hset]
  cases state.allowed.contains key <;> rfl

theorem readLine_of_setKey_error (state : KeysState) (h : IsKeyLine key.name value line)
    (hkey : key ∈ flavor.keys) (pos : Nat) {problem : Problem}
    (hset : state.field.setKey key value = .error problem) :
    readLine flavor state pos line = (⟨state.field, state.allowedAfter key⟩,
      (state.orderProblems flavor key ++ [problem]).map (Diagnostic.at · pos)) := by
  unfold readLine allowedAfter orderProblems
  rw [h.not_blank, readKeyLine_eq_some_iff.mpr h]
  simp only [KeyLine.ofName?_name, List.contains_iff_mem.mpr hkey, hset]
  cases state.allowed.contains key <;> rfl

theorem readLine_key (state : KeysState) (h : IsKeyLine key.name value line)
    (hkey : key ∈ flavor.keys) (pos : Nat) :
    (readLine flavor state pos line).2 =
        (state.orderProblems flavor key ++ key.valueProblems value).map (Diagnostic.at · pos)
      ∧ ∃ field, (readLine flavor state pos line).1 = ⟨field, state.allowedAfter key⟩
        ∧ (key.valueProblems value = [] → field = KeyLine.set ⟨key, value⟩ state.field) := by
  rcases state.field.setKey_cases key value with ⟨hset, hfine⟩ | ⟨problem, hset, hproblem⟩
  · rw [readLine_of_setKey_ok state h hkey pos hset, hfine, List.append_nil]
    exact ⟨rfl, _, rfl, fun _ => rfl⟩
  · rw [readLine_of_setKey_error state h hkey pos hset, hproblem]
    exact ⟨rfl, _, rfl, fun hnil => absurd hnil (List.cons_ne_nil _ _)⟩

end

/-- A line is judged by what it is and by the lines before it, and sets its key if there is nothing
wrong with it. -/
theorem readLine_judged (h : state.Follows flavor earlier) (pos : Nat) (line : List Char) :
    ∃ problems, flavor.Judges earlier line problems
      ∧ (readLine flavor state pos line).2 = problems.map (Diagnostic.at · pos)
      ∧ Follows flavor (earlier ++ [line]) (readLine flavor state pos line).1
      ∧ (problems = [] → (readLine flavor state pos line).1.field =
          KeyLine.setAll (KeyLine.ofLine? line).toList state.field) := by
  rcases flavor.line_cases line with hblank | ⟨hblank, hno⟩ | ⟨name, value, hline, hno⟩ |
    ⟨key, value, hline, hkey⟩
  · have hno : ∀ name value, ¬ IsKeyLine name value line := fun name value hline => by
      simp [hline.not_blank] at hblank
    rw [readLine_blank hblank]
    refine ⟨[], Flavor.judges_of_no_key (fun _ => rfl) (fun hnot => by simp [hblank] at hnot)
      (fun name value hline => absurd hline (hno name value)) fun key _ => hno key.name, rfl,
      h.of_no_key fun key _ => hno key.name, fun _ => ?_⟩
    rw [KeyLine.ofLine?_eq_none fun key => hno key.name]
    rfl
  · rw [readLine_illegal hblank hno]
    exact ⟨[.illegalLine (String.ofList line)],
      Flavor.judges_of_no_key (fun hblank' => by simp [hblank] at hblank') (fun _ _ => rfl)
        (fun name value hline => absurd hline (hno name value)) fun key _ => hno key.name, rfl,
      h.of_no_key fun key _ => hno key.name, fun hnil => absurd hnil (List.cons_ne_nil _ _)⟩
  · have hkeys : ∀ key ∈ flavor.keys, ∀ value, ¬ IsKeyLine (Key.name key) value line :=
      fun key hkey other hother => hno key hkey (hother.unique hline).1
    rw [readLine_unknown hline hno]
    exact ⟨[.unknownKey name], Flavor.judges_of_no_key
      (fun hblank => by simp [hline.not_blank] at hblank) (fun _ hnot => absurd hline (hnot _ _))
      (fun name' value' hline' => by rw [(hline.unique hline').1]) hkeys, rfl, h.of_no_key hkeys,
      fun hnil => absurd hnil (List.cons_ne_nil _ _)⟩
  · obtain ⟨hproblems, field, hstate, hfield⟩ := state.readLine_key hline hkey pos
    refine ⟨state.orderProblems flavor key ++ key.valueProblems value,
      Flavor.judges_of_key hline hkey (fun hlate => ?_) (fun hlate => ?_), hproblems, ?_,
      fun hnil => ?_⟩
    · rw [h.isLate_iff hkey] at hlate
      simp [orderProblems, hlate]
    · rw [h.isLate_iff hkey, not_not] at hlate
      simp [orderProblems, hlate]
    · rw [hstate]
      exact h.of_key hline hkey
    · have hkeyLine : KeyLine.ofLine? line = some ⟨key, value⟩ :=
        KeyLine.ofLine?_eq_some_iff.mpr hline
      rw [hstate, hkeyLine]
      exact hfield (List.append_eq_nil_iff.mp hnil).2

end KeysState

/-! ## All lines -/

/-- How many bytes come before a line, if `pos` bytes come before the first. -/
def linePlace (pos : Nat) (lines : List (List Char)) (i : Nat) : Nat :=
  pos + ((lines.take i).map fun line => utf8Length line + 1).sum

/-- Every line is judged behind the lines before it, and the diagnostics are its problems, line by
line, each at the place where the line begins. -/
def Flavor.JudgesAll (flavor : Flavor) (earlier : List (List Char)) (pos : Nat)
    (lines : List (List Char)) (diagnostics : List Diagnostic) : Prop :=
  ∃ verdict : Nat → List Problem,
    (∀ i (h : i < lines.length), flavor.Judges (earlier ++ lines.take i) lines[i] (verdict i))
    ∧ diagnostics = (List.range lines.length).flatMap fun i =>
        (verdict i).map (Diagnostic.at · (linePlace pos lines i))

namespace Flavor.JudgesAll

variable {flavor : Flavor} {earlier lines : List (List Char)} {line : List Char} {pos : Nat}

theorem nil : flavor.JudgesAll earlier pos [] [] :=
  ⟨fun _ => [], fun i h => absurd h (Nat.not_lt_zero i), rfl⟩

theorem cons {problems : List Problem} {diagnostics : List Diagnostic}
    (h : flavor.Judges earlier line problems)
    (hrest : flavor.JudgesAll (earlier ++ [line]) (pos + utf8Length line + 1) lines diagnostics) :
    flavor.JudgesAll earlier pos (line :: lines)
      (problems.map (Diagnostic.at · pos) ++ diagnostics) := by
  obtain ⟨verdict, hverdict, rfl⟩ := hrest
  refine ⟨fun i => Nat.casesOn i problems verdict, fun i hi => ?_, ?_⟩
  · cases i with
    | zero => simpa using h
    | succ i =>
        have hi' : i < lines.length := Nat.lt_of_succ_lt_succ hi
        simpa using hverdict i hi'
  · rw [List.length_cons, List.range_succ_eq_map, List.flatMap_cons, List.flatMap_map]
    congr 1
    refine List.flatMap_congr fun i _ => ?_
    have hplace : linePlace pos (line :: lines) (i + 1) =
        linePlace (pos + utf8Length line + 1) lines i := by
      simp only [linePlace, List.take_succ_cons, List.map_cons, List.sum_cons]
      omega
    rw [hplace]

/-- All lines together are judged in one way. -/
theorem unique {diagnostics diagnostics' : List Diagnostic}
    (h : flavor.JudgesAll earlier pos lines diagnostics)
    (h' : flavor.JudgesAll earlier pos lines diagnostics') : diagnostics = diagnostics' := by
  obtain ⟨verdict, hverdict, rfl⟩ := h
  obtain ⟨verdict', hverdict', rfl⟩ := h'
  refine List.flatMap_congr fun i hi => ?_
  have hlt := List.mem_range.mp hi
  rw [(hverdict i hlt).unique (hverdict' i hlt)]

end Flavor.JudgesAll

/-- Line after line is judged, and if nothing is wrong each line with a key sets it. -/
theorem KeysState.readLines_judged {flavor : Flavor} : ∀ (lines : List (List Char))
    {earlier : List (List Char)} {state : KeysState} (pos : Nat), state.Follows flavor earlier →
      flavor.JudgesAll earlier pos lines (readLines flavor state pos lines).2
      ∧ ((readLines flavor state pos lines).2 = [] → (readLines flavor state pos lines).1.field =
          KeyLine.setAll (lines.filterMap KeyLine.ofLine?) state.field)
  | [], _, _, _, _ => ⟨.nil, fun _ => rfl⟩
  | line :: lines, earlier, state, pos, h => by
      obtain ⟨problems, hjudged, hread, hfollows, hfield⟩ := readLine_judged h pos line
      obtain ⟨hrest, hfield'⟩ := readLines_judged lines (pos + utf8Length line + 1) hfollows
      rw [readLines]
      dsimp only
      rw [hread]
      refine ⟨.cons hjudged hrest, fun hnil => ?_⟩
      obtain ⟨hhere, hlater⟩ := List.append_eq_nil_iff.mp hnil
      rw [hfield' hlater, hfield (List.map_eq_nil_iff.mp hhere), List.filterMap_cons]
      cases KeyLine.ofLine? line <;> rfl

/-! ## The values in the end -/

/-- The field has the value for a key that this text denotes. -/
def Field.HasValue (field : Field) (key : Key) (value : List Char) : Prop :=
  match key with
  | .separator => field.separator = readSeparator value
  | .points => field.points = pointsOf (trim value)
  | .size => field.size = ofDecimalDigits (trim value)
  | .feedback => field.feedback = some (String.ofList (trim value))
  | .comment => field.comment = some (String.ofList (trim value))

/-- Two fields have the same value for a key. -/
def Field.SameValue (field other : Field) (key : Key) : Prop :=
  match key with
  | .separator => field.separator = other.separator
  | .points => field.points = other.points
  | .size => field.size = other.size
  | .feedback => field.feedback = other.feedback
  | .comment => field.comment = other.comment

/-- The last of the lines with this key has this value. -/
def IsLastValue (key : Key) (lines : List (List Char)) (value : List Char) : Prop :=
  ∃ before line after, lines = before ++ line :: after ∧ IsKeyLine key.name value line
    ∧ ∀ other ∈ after, ∀ value', ¬ IsKeyLine key.name value' other

theorem filter_key_eq_nil {key : Key} {lines : List (List Char)}
    (h : ∀ line ∈ lines, ∀ value, ¬ IsKeyLine key.name value line) :
    (lines.filterMap KeyLine.ofLine?).filter (·.key = key) = [] := by
  rw [List.filter_eq_nil_iff]
  intro keyLine hmem heq
  obtain ⟨line, hline, hof⟩ := List.mem_filterMap.mp hmem
  obtain rfl : keyLine.key = key := by simpa using heq
  exact h line hline keyLine.value (KeyLine.ofLine?_eq_some_iff.mp hof)

theorem lastValue?_of_isLastValue {key : Key} {lines : List (List Char)} {value : List Char}
    (h : IsLastValue key lines value) :
    lastValue? key (lines.filterMap KeyLine.ofLine?) = some value := by
  obtain ⟨before, line, after, rfl, hline, hafter⟩ := h
  have hof : KeyLine.ofLine? line = some ⟨key, value⟩ := KeyLine.ofLine?_eq_some_iff.mpr hline
  unfold lastValue?
  rw [List.filterMap_append, List.filterMap_cons_some hof, List.filter_append,
    List.filter_cons_of_pos (by simp), filter_key_eq_nil hafter]
  simp

theorem lastValue?_eq_none {key : Key} {lines : List (List Char)}
    (h : ∀ line ∈ lines, ∀ value, ¬ IsKeyLine key.name value line) :
    lastValue? key (lines.filterMap KeyLine.ofLine?) = none := by
  unfold lastValue?
  rw [filter_key_eq_nil h]
  rfl

theorem KeyLine.setAll_hasValue {key : Key} {lines : List (List Char)} {value : List Char}
    (h : IsLastValue key lines value) (field : Field) :
    (setAll (lines.filterMap ofLine?) field).HasValue key value := by
  have hlast := lastValue?_of_isLastValue h
  rw [setAll_eq]
  cases key <;> simp [Field.HasValue, hlast]

theorem KeyLine.setAll_sameValue {key : Key} {lines : List (List Char)}
    (h : ∀ line ∈ lines, ∀ value, ¬ IsKeyLine key.name value line) (field : Field) :
    (setAll (lines.filterMap ofLine?) field).SameValue field key := by
  have hlast := lastValue?_eq_none h
  rw [setAll_eq]
  cases key <;> simp [Field.SameValue, hlast]

/-! ## Behind the blocks of a text -/

namespace Field

/-- How the blocks of a text are read. -/
def blocksOf (text : String) : BlocksReading :=
  let source := dropReturns text.toList
  let (start, rest) := skipBlanks 0 source
  readBlocks .default source (source.length + 1) true start rest

/-- The field before its key lines are read. -/
def beforeKeys (text : String) : Field :=
  { Field.empty with subPatterns := (blocksOf text).subPatterns }

/-- Behind blocks that are fine, what is wrong with the key lines is wrong with the text; and a text
that is read is the field that they make. -/
theorem parse_behind_blocks {text : String} {keysAt : Nat} {keys : List Char}
    (hblocks : (blocksOf text).diagnostics = [])
    (hrest : (blocksOf text).rest = some (keysAt, keys)) (flavor : Flavor) :
    let read := readKeys flavor (beforeKeys text) keysAt keys
    (read.2 ≠ [] ∧ Field.parse flavor text = .error read.2)
      ∨ (read.2 = [] ∧ ∀ field, Field.parse flavor text = .ok field → field = read.1) := by
  unfold beforeKeys
  unfold blocksOf dropReturns at hblocks hrest ⊢
  unfold Field.parse parseSource
  dsimp only at hblocks hrest ⊢
  rw [hrest, hblocks]
  dsimp only
  rw [List.nil_append]
  split
  · rename_i hnil
    refine .inr ⟨hnil, fun field hok => ?_⟩
    split at hok
    · exact (Except.ok.inj hok).symm
    · cases hok
  · rename_i hne
    exact .inl ⟨hne, rfl⟩

/-- If the blocks of a text are fine, its key lines are judged line by line: what is wrong with each
depends on it and on the lines before it alone, and these problems, in the order of the lines, are
all there is. If there are none, every key has the value of its last line. -/
theorem keyLines_judged (flavor : Flavor) (text : String)
    (hblocks : (blocksOf text).diagnostics = []) :
    ∃ keysAt keys, (blocksOf text).rest = some (keysAt, keys) ∧
      let read := readKeys flavor (beforeKeys text) keysAt keys
      let lines := splitLines keys
      (∀ diagnostics, read.2 = diagnostics ↔ flavor.JudgesAll [] keysAt lines diagnostics)
        ∧ (read.2 = [] → ∀ key,
          (∀ value, IsLastValue key lines value → read.1.HasValue key value)
          ∧ ((∀ line ∈ lines, ∀ value, ¬ IsKeyLine key.name value line) →
            read.1.SameValue (beforeKeys text) key))
        ∧ (read.2 ≠ [] → Field.parse flavor text = .error read.2)
        ∧ ∀ field, Field.parse flavor text = .ok field → read.2 = [] ∧ field = read.1 := by
  obtain ⟨⟨keysAt, keys⟩, hrest⟩ : ∃ rest, (blocksOf text).rest = some rest :=
    Option.ne_none_iff_exists'.mp fun hnone => readBlocks_diagnostics_ne_nil hnone hblocks
  obtain ⟨hjudged, hfield⟩ := KeysState.readLines_judged (splitLines keys) keysAt
    (KeysState.follows_nil flavor (beforeKeys text))
  refine ⟨keysAt, keys, hrest, fun diagnostics => ⟨fun h => h ▸ hjudged, hjudged.unique⟩,
    fun hnil key => ?_, ?_⟩
  · have hread : (readKeys flavor (beforeKeys text) keysAt keys).1 = _ := hfield hnil
    rw [hread]
    exact ⟨fun value h => KeyLine.setAll_hasValue h _, fun h => KeyLine.setAll_sameValue h _⟩
  · rcases parse_behind_blocks hblocks hrest flavor with ⟨hne, herror⟩ | ⟨hnil, hok⟩
    · refine ⟨fun _ => herror, fun field hparse => ?_⟩
      rw [herror] at hparse
      cases hparse
    · exact ⟨fun hne => absurd hnil hne, fun field hparse => ⟨hnil, hok field hparse⟩⟩

/-- Lines that come too late or have a bad value, an unknown key, and no key at all. -/
def mixedLinesText : String := "[[a]]//\nfeedback=no\nsize=x\n\nhint=1\n!\npoints= 2.5 \nsize= 7"

theorem mixedLines_judged :
    (blocksOf mixedLinesText).diagnostics = [] ∧ ∃ keysAt keys,
      (blocksOf mixedLinesText).rest = some (keysAt, keys)
      ∧ Flavor.JudgesAll .cloze [] keysAt (splitLines keys)
        [.at (.keyOrder "size" "separator, points, size, feedback, comment") 20,
          .at (.invalidSize "x") 20, .at (.unknownKey "hint") 28, .at (.illegalLine "!") 35,
          .at (.keyOrder "points" "separator, points, size, feedback, comment") 37,
          .at (.keyOrder "size" "separator, points, size, feedback, comment") 50]
      ∧ ¬ ∃ field, Field.parse .cloze mixedLinesText = .ok field := by
  have hblocks : (blocksOf mixedLinesText).diagnostics = [] := by decide +kernel
  obtain ⟨keysAt, keys, hrest, hjudged, -, -, hok⟩ := keyLines_judged .cloze mixedLinesText hblocks
  have hread : (readKeys .cloze (beforeKeys mixedLinesText) keysAt keys).2 =
      [.at (.keyOrder "size" "separator, points, size, feedback, comment") 20,
        .at (.invalidSize "x") 20, .at (.unknownKey "hint") 28, .at (.illegalLine "!") 35,
        .at (.keyOrder "points" "separator, points, size, feedback, comment") 37,
        .at (.keyOrder "size" "separator, points, size, feedback, comment") 50] := by
    obtain ⟨rfl, rfl⟩ : 8 = keysAt
        ∧ "feedback=no\nsize=x\n\nhint=1\n!\npoints= 2.5 \nsize= 7".toList = keys :=
      Prod.mk.inj (Option.some.inj (Eq.trans (by decide +kernel) hrest))
    decide +kernel
  refine ⟨hblocks, keysAt, keys, hrest, (hjudged _).mp hread, fun ⟨field, hfield⟩ => ?_⟩
  rw [hread] at hok
  exact absurd (hok field hfield).1 (by simp)

end Field

end Gapfill
