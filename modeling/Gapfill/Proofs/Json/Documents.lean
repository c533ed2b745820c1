import Gapfill.Proofs.Json.Floats
import Gapfill.Proofs.Json.Strings

/-!
# JSON documents

A printed value is read back (`parse?_pretty`): a document as it is, but for its
numbers, each of which is the one that reading makes of its text, and null
where the printer has no text for a value. The text of a value ends where it has to, so
that what stands behind it is left to be read (`readValue_printAt`).
-/

namespace Gapfill.Json

mutual

/-- What is read of a value that is printed. -/
def rereadValue : Json → Json
  | null | broken => null
  | boolean b => boolean b
  | integer n => wholeNumber (n < 0) (decimalDigits n.natAbs)
  | float x => if x.isFinite then float (reread x) else null
  | string text => string text
  | array items => array (rereadItems items)
  | object members => object (rereadMembers members)

def rereadItems : List Json → List Json
  | [] => []
  | item :: items => rereadValue item :: rereadItems items

def rereadMembers : List (String × Json) → List (String × Json)
  | [] => []
  | (name, value) :: members => (name, rereadValue value) :: rereadMembers members

end

/-! ## White space -/

theorem skipSpace_cons {c : Char} (h : isSpace c = false) (s : List Char) :
    skipSpace (c :: s) = c :: s := List.dropWhile_cons_of_neg (by simp [h])

theorem skipSpace_newLine (level : Nat) (s : List Char) :
    skipSpace (newLine level ++ s) = skipSpace s := by
  refine List.dropWhile_append_of_pos fun c hc => ?_
  rcases List.mem_cons.mp hc with rfl | hc
  · rfl
  · rw [(List.mem_replicate.mp hc).2]
    rfl

theorem ends_newLine (level : Nat) (s : List Char) : Ends (newLine level ++ s) := by
  intro c hc
  obtain rfl := Option.some.inj hc
  decide

theorem ends_comma (s : List Char) : Ends (',' :: s) := by
  intro c hc
  obtain rfl := Option.some.inj hc
  decide

/-! ## Numbers and words -/

/-- A whole number as it is written. -/
def NumberText.ofInt (n : Int) : NumberText := ⟨n < 0, decimalDigits n.natAbs, [], none⟩

theorem NumberText.valid_ofInt (n : Int) : (ofInt n).Valid where
  whole := isWhole_decimalDigits n.natAbs
  places := fun _ hc => absurd hc List.not_mem_nil
  power := fun _ _ h => absurd h (by simp [ofInt])

theorem NumberText.text_ofInt (n : Int) :
    (ofInt n).text = (if n < 0 then ['-'] else []) ++ decimalDigits n.natAbs := by
  simp [ofInt, text, placesText, powerText]

/-- The first character of a number. -/
theorem NumberText.exists_head {t : NumberText} (ht : t.Valid) :
    ∃ c s, t.text = c :: s ∧ (c = '-' ∨ c.isDigit = true) := by
  obtain ⟨c, digits, hcons⟩ := List.exists_cons_of_ne_nil ht.whole.ne_nil
  rw [text, hcons]
  cases t.negative with
  | true => exact ⟨'-', _, rfl, Or.inl rfl⟩
  | false => exact ⟨c, _, rfl, Or.inr (ht.whole.digits c (hcons ▸ List.mem_cons_self))⟩

/-- Nothing else begins like a number. -/
theorem ne_of_number {c d : Char} (h : c = '-' ∨ c.isDigit = true) (hminus : d ≠ '-')
    (hdigit : d.isDigit = false) : c ≠ d := by
  rcases h with rfl | hc
  · exact hminus.symm
  · exact ne_of_isDigit hc hdigit

theorem readValue_number {c : Char} (h : c = '-' ∨ c.isDigit = true) (fuel : Nat) (s : List Char) :
    readValue (fuel + 1) (c :: s) = readNumber (c :: s) := by
  have hne : ∀ d : Char, d ≠ '-' → d.isDigit = false → c ≠ d := fun _ => ne_of_number h
  rw [readValue]
  · exact fun _ heq => hne 'n' (by decide) (by decide) (List.cons.inj heq).1
  · exact fun _ heq => hne 't' (by decide) (by decide) (List.cons.inj heq).1
  · exact fun _ heq => hne 'f' (by decide) (by decide) (List.cons.inj heq).1
  · exact fun _ heq => hne '"' (by decide) (by decide) (List.cons.inj heq).1
  · exact fun _ heq => hne '[' (by decide) (by decide) (List.cons.inj heq).1
  · exact fun _ heq => hne '\x7b' (by decide) (by decide) (List.cons.inj heq).1

theorem readValue_text {t : NumberText} (ht : t.Valid) (fuel : Nat) {rest : List Char}
    (hrest : Ends rest) : readValue (fuel + 1) (t.text ++ rest) = some (t.value, rest) := by
  obtain ⟨c, s, hcons, hc⟩ := NumberText.exists_head ht
  rw [hcons, List.cons_append, readValue_number hc, ← List.cons_append, ← hcons]
  exact NumberText.readNumber_text ht hrest

theorem readWord_append (word : String) (value : Json) (rest : List Char) :
    readWord word value (word.toList ++ rest) = some (value, rest) := by
  rw [readWord, if_pos (List.isPrefixOf_iff_prefix.mpr (List.prefix_append _ _)), List.drop_left]

theorem floatText_of_not_finite {x : Binary64} (h : ¬ x.isFinite = true) :
    floatText x = "null".toList := by
  cases x with
  | nan => rfl
  | signed negative rank hle =>
      rw [Binary64.isFinite, decide_eq_true_eq] at h
      rw [floatText, if_pos (Nat.le_antisymm hle (Nat.le_of_not_lt h))]

/-! ## The beginning of a value -/

/-- No white space, and not the end of what holds the value. -/
theorem printAt_head (level : Nat) (value : Json) :
    ∃ c s, printAt level value = c :: s ∧ isSpace c = false ∧ c ≠ ']' ∧ c ≠ '\x7d' := by
  have hnumber : ∀ {t : NumberText}, t.Valid →
      ∃ c s, t.text = c :: s ∧ isSpace c = false ∧ c ≠ ']' ∧ c ≠ '\x7d' := by
    intro t ht
    obtain ⟨c, s, hcons, hc⟩ := NumberText.exists_head ht
    have hne : ∀ d : Char, d ≠ '-' → d.isDigit = false → c ≠ d := fun _ => ne_of_number hc
    refine ⟨c, s, hcons, ?_, hne _ (by decide) (by decide), hne _ (by decide) (by decide)⟩
    simp [isSpace, hne ' ' (by decide) (by decide), hne '\t' (by decide) (by decide),
      hne '\n' (by decide) (by decide), hne '\r' (by decide) (by decide)]
  cases value with
  | null | broken => exact ⟨'n', _, by rw [printAt]; rfl, by decide⟩
  | boolean b => cases b <;> exact ⟨_, _, by rw [printAt]; rfl, by decide⟩
  | integer n =>
      rw [printAt, ← NumberText.text_ofInt]
      exact hnumber (NumberText.valid_ofInt n)
  | float x =>
      rw [printAt]
      by_cases hfinite : x.isFinite = true
      · obtain ⟨t, ht, htext, -⟩ := floatText_spec hfinite
        rw [htext]
        exact hnumber ht
      · rw [floatText_of_not_finite hfinite]
        exact ⟨'n', _, rfl, by decide⟩
  | string text => exact ⟨'"', _, by rw [printAt]; rfl, by decide⟩
  | array items => cases items <;> exact ⟨'[', _, by rw [printAt]; rfl, by decide⟩
  | object members =>
      cases members with
      | nil => exact ⟨'\x7b', _, by rw [printAt]; rfl, by decide⟩
      | cons member members => exact ⟨'\x7b', _, by rw [printAt]; rfl, by decide⟩

theorem skipSpace_printAt (level : Nat) (value : Json) (s : List Char) :
    skipSpace (printAt level value ++ s) = printAt level value ++ s := by
  obtain ⟨c, rest, hcons, hspace, -⟩ := printAt_head level value
  rw [hcons]
  exact skipSpace_cons hspace _

theorem wholeNumber_text (n : Int) :
    (NumberText.ofInt n).value = rereadValue (integer n) := by
  rw [rereadValue]
  rfl

/-! ## One step of reading -/

theorem quotedText_append (text : String) (rest : List Char) :
    quotedText text ++ rest = '"' :: (text.toList.flatMap escapedChar ++ '"' :: rest) := by
  simp [quotedText]

theorem skipSpace_quotedText (text : String) (rest : List Char) :
    skipSpace (quotedText text ++ rest) = quotedText text ++ rest := by
  rw [quotedText_append]
  exact skipSpace_cons rfl _

theorem readValue_string (text : String) {fuel : Nat} (rest : List Char) :
    readValue (fuel + 1) (quotedText text ++ rest) = some (string text, rest) := by
  rw [quotedText_append, readValue, readString_quoted text.toList (Nat.lt_succ_self _)]
  simp

theorem readValue_float (x : Binary64) {fuel : Nat} {rest : List Char} (hrest : Ends rest) :
    readValue (fuel + 1) (floatText x ++ rest) = some (rereadValue (float x), rest) := by
  rw [rereadValue]
  by_cases hfinite : x.isFinite = true
  · obtain ⟨t, ht, htext, hvalue⟩ := floatText_spec hfinite
    rw [if_pos hfinite, htext, readValue_text ht fuel hrest, hvalue]
  · rw [if_neg hfinite, floatText_of_not_finite hfinite]
    exact readWord_append "null" null rest

theorem readValue_array {fuel : Nat} {s t : List Char} {c : Char} (hskip : skipSpace s = c :: t)
    (hc : c ≠ ']') : readValue (fuel + 1) ('[' :: s)
      = (readItems fuel (c :: t)).map fun (items, rest) => (array items, rest) := by
  rw [readValue, hskip]
  split
  · rename_i heq
    exact absurd (List.cons.inj heq).1 hc
  · rfl

theorem readValue_object {fuel : Nat} {s t : List Char} {c : Char} (hskip : skipSpace s = c :: t)
    (hc : c ≠ '\x7d') : readValue (fuel + 1) ('\x7b' :: s)
      = (readMembers fuel (c :: t)).map fun (members, rest) => (ofMembers members, rest) := by
  rw [readValue, hskip]
  split
  · rename_i heq
    exact absurd (List.cons.inj heq).1 hc
  · rfl

theorem readItems_last {fuel : Nat} {s rest rest' : List Char} {value : Json}
    (hvalue : readValue fuel (skipSpace s) = some (value, rest))
    (hend : skipSpace rest = ']' :: rest') : readItems (fuel + 1) s = some ([value], rest') := by
  rw [readItems, hvalue]
  dsimp only
  rw [hend]
  rfl

theorem readItems_more {fuel : Nat} {s rest rest' : List Char} {value : Json}
    (hvalue : readValue fuel (skipSpace s) = some (value, rest))
    (hcomma : skipSpace rest = ',' :: rest') : readItems (fuel + 1) s
      = (readItems fuel rest').map fun (items, rest) => (value :: items, rest) := by
  rw [readItems, hvalue]
  dsimp only
  rw [hcomma]
  rfl

section

variable {fuel : Nat} {name : String} {s after rest rest' : List Char} {value : Json}
  (hname : skipSpace s = quotedText name ++ (": ".toList ++ after))
  (hvalue : readValue fuel (skipSpace after) = some (value, rest))

include hname hvalue

/-- A name and a value, before a comma or the closing brace. -/
theorem readMembers_member : readMembers (fuel + 1) s = match skipSpace rest with
    | ',' :: rest =>
      (readMembers fuel rest).map fun (members, rest) => ((some name, value) :: members, rest)
    | '\x7d' :: rest => some ([(some name, value)], rest)
    | _ => none := by
  have hcolon : skipSpace (": ".toList ++ after) = ':' :: ' ' :: after := rfl
  have hspace : skipSpace (' ' :: after) = skipSpace after := rfl
  rw [readMembers, hname, quotedText_append]
  split
  · rename_i text heq
    obtain rfl := (List.cons.inj heq).2
    rw [readString_quoted name.toList (Nat.lt_succ_self _)]
    simp only [hcolon, hspace, Option.map_some, String.ofList_toList]
    exact hvalue ▸ rfl
  · rename_i hnot
    exact absurd rfl (hnot _)

theorem readMembers_last (hend : skipSpace rest = '\x7d' :: rest') :
    readMembers (fuel + 1) s = some ([(some name, value)], rest') := by
  rw [readMembers_member hname hvalue, hend]
  rfl

theorem readMembers_more (hcomma : skipSpace rest = ',' :: rest') :
    readMembers (fuel + 1) s = (readMembers fuel rest').map
      fun (members, rest) => ((some name, value) :: members, rest) := by
  rw [readMembers_member hname hvalue, hcomma]
  rfl

end

theorem ofMembers_some (members : List (String × Json)) :
    ofMembers (members.map fun member => (some member.1, member.2)) = object members := by
  have hnames : (members.map fun member => (some member.1, member.2)).mapM
      (fun member => member.1.map fun name => (name, member.2)) = some members := by
    induction members with
    | nil => rfl
    | cons member members ih => simp [ih]
  unfold ofMembers
  split
  · rename_i hfound
    rw [Option.some.inj (hnames.symm.trans hfound)]
  · rename_i hnone
    exact absurd (hnames.symm.trans hnone) (Option.some_ne_none _)

/-! ## Reading back -/

mutual

/-- A printed value is read back, and what stands behind it is left. -/
theorem readValue_printAt (level : Nat) {rest : List Char} (hrest : Ends rest) :
    ∀ (value : Json) (fuel : Nat), (printAt level value ++ rest).length < fuel →
      readValue fuel (printAt level value ++ rest) = some (rereadValue value, rest)
  | _, 0, h => absurd h (Nat.not_lt_zero _)
  | null, fuel + 1, _ => readWord_append "null" null rest
  | broken, fuel + 1, _ => readWord_append "null" null rest
  | boolean true, fuel + 1, _ => readWord_append "true" (boolean true) rest
  | boolean false, fuel + 1, _ => readWord_append "false" (boolean false) rest
  | integer n, fuel + 1, _ => by
      rw [printAt, ← NumberText.text_ofInt, readValue_text (NumberText.valid_ofInt n) fuel hrest,
        wholeNumber_text]
  | float x, fuel + 1, _ => readValue_float x hrest
  | string text, fuel + 1, _ => readValue_string text rest
  | array [], fuel + 1, _ => rfl
  | array (item :: items), fuel + 1, h => by
      have htext : printAt level (array (item :: items)) ++ rest = '[' :: (newLine (level + 1) ++
          (printAt (level + 1) item ++ (printItems (level + 1) items ++
            (newLine level ++ ']' :: rest)))) := by
        rw [printAt]
        simp
      obtain ⟨c, s, hcons, -, hne, -⟩ := printAt_head (level + 1) item
      rw [htext] at h ⊢
      have hskip := (skipSpace_newLine (level + 1) _).trans (skipSpace_printAt (level + 1) item
        (printItems (level + 1) items ++ (newLine level ++ ']' :: rest)))
      have hitems := readItems_printItems (level + 1) level rest item items fuel
        (skipSpace_printAt _ _ _) (by
          rw [skipSpace_printAt]
          simp only [newLine, List.length_cons, List.length_append] at h ⊢
          omega)
      rw [hcons, List.cons_append] at hitems
      rw [hcons, List.cons_append] at hskip ⊢
      rw [readValue_array hskip hne, hitems]
      rfl
  | object [], fuel + 1, _ => rfl
  | object ((name, value) :: members), fuel + 1, h => by
      have htext : printAt level (object ((name, value) :: members)) ++ rest
          = '\x7b' :: (newLine (level + 1) ++ (quotedText name ++ (": ".toList ++
            (printAt (level + 1) value ++ (printMembers (level + 1) members ++
              (newLine level ++ '\x7d' :: rest)))))) := by
        rw [printAt]
        simp
      rw [htext] at h ⊢
      have hskip := (skipSpace_newLine (level + 1) _).trans (skipSpace_quotedText name
        (": ".toList ++ (printAt (level + 1) value ++ (printMembers (level + 1) members ++
          (newLine level ++ '\x7d' :: rest)))))
      have hmembers := readMembers_printMembers (level + 1) level rest name value members fuel
        (skipSpace_quotedText _ _) (by
          rw [skipSpace_quotedText]
          simp only [newLine, List.length_cons, List.length_append] at h ⊢
          omega)
      rw [quotedText_append] at hskip hmembers ⊢
      rw [readValue_object hskip (by decide), hmembers]
      simp only [Option.map_some, ofMembers_some, rereadValue]
termination_by value => sizeOf value

theorem readItems_printItems (level outer : Nat) (rest : List Char) :
    ∀ (item : Json) (items : List Json) {s : List Char} (fuel : Nat),
      skipSpace s = printAt level item ++
        (printItems level items ++ (newLine outer ++ ']' :: rest)) →
      (skipSpace s).length + 1 < fuel →
        readItems fuel s = some (rereadItems (item :: items), rest)
  | _, _, _, 0, _, h => absurd h (Nat.not_lt_zero _)
  | item, [], s, fuel + 1, hskip, h => by
      have hend : skipSpace (newLine outer ++ ']' :: rest) = ']' :: rest :=
        (skipSpace_newLine outer _).trans (skipSpace_cons rfl rest)
      rw [printItems, List.nil_append] at hskip
      rw [hskip] at h
      have hvalue := readValue_printAt level (ends_newLine outer (']' :: rest)) item fuel
        (by omega)
      rw [← hskip] at hvalue
      rw [readItems_last hvalue hend]
      rfl
  | item, next :: items, s, fuel + 1, hskip, h => by
      have htext : printItems level (next :: items) ++ (newLine outer ++ ']' :: rest)
          = ',' :: (newLine level ++ (printAt level next ++
            (printItems level items ++ (newLine outer ++ ']' :: rest)))) := by
        rw [printItems]
        simp
      rw [htext] at hskip
      rw [hskip] at h
      have hends := ends_comma (newLine level ++
        (printAt level next ++ (printItems level items ++ (newLine outer ++ ']' :: rest))))
      have hvalue := readValue_printAt level hends item fuel (by omega)
      rw [← hskip] at hvalue
      have hnext := (skipSpace_newLine level _).trans (skipSpace_printAt level next
        (printItems level items ++ (newLine outer ++ ']' :: rest)))
      have hitems := readItems_printItems level outer rest next items fuel hnext (by
        rw [hnext]
        simp only [newLine, List.length_cons, List.length_append] at h ⊢
        omega)
      rw [readItems_more hvalue (skipSpace_cons rfl _), hitems]
      rfl
termination_by item items => sizeOf item + sizeOf items

theorem readMembers_printMembers (level outer : Nat) (rest : List Char) :
    ∀ (name : String) (value : Json) (members : List (String × Json)) {s : List Char} (fuel : Nat),
      skipSpace s = quotedText name ++ (": ".toList ++ (printAt level value ++
        (printMembers level members ++ (newLine outer ++ '\x7d' :: rest)))) →
      (skipSpace s).length + 1 < fuel →
        readMembers fuel s = some ((rereadMembers ((name, value) :: members)).map
          fun member => (some member.1, member.2), rest)
  | _, _, _, _, 0, _, h => absurd h (Nat.not_lt_zero _)
  | name, value, [], s, fuel + 1, hskip, h => by
      have hend : skipSpace (newLine outer ++ '\x7d' :: rest) = '\x7d' :: rest :=
        (skipSpace_newLine outer _).trans (skipSpace_cons rfl rest)
      rw [printMembers, List.nil_append] at hskip
      rw [hskip] at h
      have hvalue := readValue_printAt level (ends_newLine outer ('\x7d' :: rest)) value fuel
        (by
          simp only [List.length_append] at h ⊢
          omega)
      rw [← skipSpace_printAt] at hvalue
      rw [readMembers_last hskip hvalue hend]
      rfl
  | name, value, (name', next) :: members, s, fuel + 1, hskip, h => by
      have htext : printMembers level ((name', next) :: members)
            ++ (newLine outer ++ '\x7d' :: rest)
          = ',' :: (newLine level ++ (quotedText name' ++ (": ".toList ++ (printAt level next ++
            (printMembers level members ++ (newLine outer ++ '\x7d' :: rest)))))) := by
        rw [printMembers]
        simp
      rw [htext] at hskip
      rw [hskip] at h
      have hends := ends_comma (newLine level ++ (quotedText name' ++ (": ".toList ++
        (printAt level next ++ (printMembers level members ++ (newLine outer ++ '\x7d' :: rest))))))
      have hvalue := readValue_printAt level hends value fuel (by
        simp only [List.length_append] at h ⊢
        omega)
      rw [← skipSpace_printAt] at hvalue
      have hnext := (skipSpace_newLine level _).trans (skipSpace_quotedText name' (": ".toList ++
        (printAt level next ++ (printMembers level members ++ (newLine outer ++ '\x7d' :: rest)))))
      have hmembers := readMembers_printMembers level outer rest name' next members fuel
        hnext (by
          rw [hnext]
          simp only [newLine, List.length_cons, List.length_append] at h ⊢
          omega)
      rw [readMembers_more hskip hvalue (skipSpace_cons rfl _), hmembers]
      rfl
termination_by _ value members => sizeOf value + sizeOf members

end

/-- A printed value is read back. -/
theorem parse?_pretty (value : Json) : parse? value.pretty = some (rereadValue value) := by
  have hends : Ends [] := fun c hc => absurd hc (by simp)
  have hskip := skipSpace_printAt 0 value []
  have hread := readValue_printAt 0 hends value _ (Nat.lt_add_one _)
  rw [List.append_nil] at hskip hread
  unfold parse? pretty
  rw [String.toList_ofList, hskip]
  dsimp only
  rw [hread]
  rfl

end Gapfill.Json
