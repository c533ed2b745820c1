import Gapfill.Proofs.Calendar.Days
import Gapfill.Proofs.Number.Digits
import Gapfill.Proofs.Text.Runs

/-!
# Instants are read back

Each number in the text of an instant stands before a character that is no digit,
so it is read up to there: two digits for months, days and clocks, four or a sign
before a year, and three, six or nine for a part of a second. The numbers make up
the instant again, since the days up to its date are its days (`toDays_ofDays`). A
leap second has the number 60, which no other second has (`ofText?_text`).
-/

namespace Gapfill

/-! ## Padded numbers -/

/-- Digits that a number is written with. -/
structure Spelling (digits : List Char) (n : Nat) : Prop where
  isDigit : ∀ c ∈ digits, c.isDigit = true
  ne_nil : digits ≠ []
  value : ofDecimalDigits digits = n

theorem toList_paddedText (width n : Nat) : (paddedText width n).toList
    = List.replicate (width - (decimalDigits n).length) '0' ++ decimalDigits n :=
  String.toList_ofList

theorem spelling_paddedText (width n : Nat) : Spelling (paddedText width n).toList n := by
  rw [toList_paddedText]
  refine ⟨?_, ?_, ?_⟩
  · exact List.forall_mem_append.mpr
      ⟨fun _ => isDigit_of_mem_zeros, fun _ => isDigit_of_mem_decimalDigits⟩
  · exact List.append_ne_nil_of_right_ne_nil _ (decimalDigits_ne_nil n)
  · rw [ofDecimalDigits_zeros_append, ofDecimalDigits_decimalDigits]

theorem length_paddedText {width n : Nat} (hwidth : 0 < width) (h : n < 10 ^ width) :
    (paddedText width n).toList.length = width := by
  rw [toList_paddedText, List.length_append, List.length_replicate]
  exact Nat.sub_add_cancel ((length_decimalDigits_le_iff hwidth).mpr h)

namespace Spelling

variable {digits rest : List Char} {n : Nat} (h : Spelling digits n)

include h

theorem exists_cons : ∃ c tail, digits = c :: tail ∧ c.isDigit = true := by
  obtain ⟨c, tail, rfl⟩ := List.exists_cons_of_ne_nil h.ne_nil
  exact ⟨c, tail, rfl, h.isDigit c List.mem_cons_self⟩

theorem trimStart_append : trimStart (digits ++ rest) = digits ++ rest := by
  obtain ⟨c, tail, rfl, hc⟩ := h.exists_cons
  exact trimStart_cons (isBlank_eq_false_of_isDigit hc) _

theorem readNumber_append {most : Nat} (hmost : digits.length ≤ most)
    (hrest : ∀ c ∈ rest.head?, c.isDigit = false) :
    Instant.readNumber most (digits ++ rest) = some (n, rest) := by
  have htake : ∀ c ∈ (rest.take (most - digits.length)).head?, c.isDigit = false := by
    intro c hc
    rw [List.head?_take] at hc
    split at hc
    · exact absurd hc (by simp)
    · exact hrest c hc
  have hnonempty : digits.isEmpty = false := by simpa using h.ne_nil
  rw [Instant.readNumber, h.trimStart_append, List.take_append, List.take_of_length_le hmost,
    takeWhile_run h.isDigit htake, hnonempty, h.value, List.drop_left]
  rfl

end Spelling

namespace Instant

theorem readMark_cons {mark : Char} (hmark : isBlank mark = false) (rest : List Char) :
    readMark mark (mark :: rest) = some rest := by
  rw [readMark, trimStart_cons hmark]
  exact if_pos (beq_self_eq_true mark)

/-- Two digits of a number below 100. -/
theorem readNumber_two {n : Nat} (h : n < 100) {rest : List Char}
    (hrest : ∀ c ∈ rest.head?, c.isDigit = false) :
    readNumber 2 ((paddedText 2 n).toList ++ rest) = some (n, rest) :=
  (spelling_paddedText 2 n).readNumber_append (Nat.le_of_eq (length_paddedText (by decide) h)) hrest

/-! ## Years -/

theorem readYear_minus (s : List Char) : readYear ('-' :: s)
    = if s.head?.any Char.isDigit then
        (readNumber s.length s).map fun (n, rest) => (-(n : Int), rest)
      else none := by
  rw [readYear, trimStart_cons (by decide)]
  rfl

theorem readYear_plus (s : List Char) : readYear ('+' :: s)
    = if s.head?.any Char.isDigit then
        (readNumber s.length s).map fun (n, rest) => ((n : Int), rest)
      else none := by
  rw [readYear, trimStart_cons (by decide)]
  rfl

/-- Without a sign, four digits are read at most. -/
theorem readYear_digit {c : Char} (hc : c.isDigit = true) (s : List Char) :
    readYear (c :: s) = (readNumber 4 (c :: s)).map fun (n, rest) => ((n : Int), rest) := by
  rw [readYear, trimStart_cons (isBlank_eq_false_of_isDigit hc)]
  split
  · rename_i heq
    exact absurd (List.cons.inj heq).1 (ne_of_isDigit hc (by decide))
  · rename_i heq
    exact absurd (List.cons.inj heq).1 (ne_of_isDigit hc (by decide))
  · rfl

theorem readYear_append (year : Int) {rest : List Char}
    (hrest : ∀ c ∈ rest.head?, c.isDigit = false) :
    readYear ((yearText year).toList ++ rest) = some (year, rest) := by
  rw [yearText]
  split
  · rename_i hfour
    obtain ⟨hnonneg, hle⟩ : 0 ≤ year ∧ year ≤ 9999 := by simpa using hfour
    have hspell := spelling_paddedText 4 year.toNat
    have hlength : (paddedText 4 year.toNat).toList.length = 4 :=
      length_paddedText (by decide) (by omega)
    obtain ⟨c, tail, hcons, hc⟩ := hspell.exists_cons
    have hnumber := hspell.readNumber_append (Nat.le_of_eq hlength) hrest
    rw [hcons, List.cons_append] at hnumber ⊢
    rw [readYear_digit hc, hnumber, Option.map_some]
    dsimp only
    rw [Int.toNat_of_nonneg hnonneg]
  · have hspell := spelling_paddedText 4 year.natAbs
    have hlength : (paddedText 4 year.natAbs).toList.length
        ≤ ((paddedText 4 year.natAbs).toList ++ rest).length := by simp
    have hnumber := hspell.readNumber_append hlength hrest
    have hdigit : ((paddedText 4 year.natAbs).toList ++ rest).head?.any Char.isDigit = true := by
      obtain ⟨c, tail, hcons, hc⟩ := hspell.exists_cons
      rw [hcons]
      exact hc
    by_cases hneg : year < 0
    · have hsign : "-".toList = ['-'] := rfl
      have habs : -(year.natAbs : Int) = year := by omega
      rw [if_pos hneg, String.toList_append, hsign, List.append_assoc, List.singleton_append,
        readYear_minus, if_pos hdigit, hnumber, Option.map_some]
      dsimp only
      rw [habs]
    · have hsign : "+".toList = ['+'] := rfl
      have habs : (year.natAbs : Int) = year := by omega
      rw [if_neg hneg, String.toList_append, hsign, List.append_assoc, List.singleton_append,
        readYear_plus, if_pos hdigit, hnumber, Option.map_some]
      dsimp only
      rw [habs]

/-! ## Parts of a second -/

/-- So many of nine digits are as good as all, if the others are zeros. -/
theorem readFraction_point {count part : Nat} (hcount : 0 < count) (hnine : count ≤ 9)
    (hpart : part < 10 ^ count) {rest : List Char}
    (hrest : ∀ c ∈ rest.head?, c.isDigit = false) :
    readFraction (("." ++ paddedText count part).toList ++ rest)
      = some (part * 10 ^ (9 - count), rest) := by
  have hspell := spelling_paddedText count part
  have hlength := length_paddedText hcount hpart
  have htext : ("." ++ paddedText count part).toList ++ rest
      = '.' :: ((paddedText count part).toList ++ rest) := by
    rw [String.toList_append]
    rfl
  have hnonempty : (paddedText count part).toList.isEmpty = false := by simpa using hspell.ne_nil
  rw [htext, readFraction, takeWhile_run hspell.isDigit hrest,
    List.take_of_length_le (by rw [hlength]; exact hnine), hnonempty, hspell.value, List.drop_left,
    hlength]
  rfl

theorem readFraction_append {nano : Nat} (hnano : nano < nanosPerSecond) {c : Char}
    (hc : c.isDigit = false) (hpoint : c ≠ '.') (rest : List Char) :
    readFraction ((fractionText nano).toList ++ c :: rest) = some (nano, c :: rest) := by
  have hbound : nano < 1000000000 := hnano
  have hrest : ∀ d ∈ (c :: rest).head?, d.isDigit = false := fun _ hd => Option.some.inj hd ▸ hc
  rw [fractionText]
  split
  · rename_i hzero
    rw [hzero, String.toList_empty, List.nil_append, readFraction]
    exact fun _ heq => hpoint (List.cons.inj heq).1
  · split
    · rename_i hmilli
      have hback : nano / 1000000 * 10 ^ (9 - 3) = nano :=
        Nat.div_mul_cancel (Nat.dvd_of_mod_eq_zero hmilli)
      rw [readFraction_point (by decide) (by decide) (by omega) hrest, hback]
    · split
      · rename_i hmicro
        have hback : nano / 1000 * 10 ^ (9 - 6) = nano :=
          Nat.div_mul_cancel (Nat.dvd_of_mod_eq_zero hmicro)
        rw [readFraction_point (by decide) (by decide) (by omega) hrest, hback]
      · rw [readFraction_point (by decide) (by decide) hbound hrest, Nat.sub_self, Nat.pow_zero,
          Nat.mul_one]

/-- Behind the seconds comes a point or the zone. -/
theorem not_digit_behind_seconds (nano : Nat) {c : Char} (hc : c.isDigit = false)
    (rest : List Char) :
    ∀ d ∈ ((fractionText nano).toList ++ c :: rest).head?, d.isDigit = false := by
  have hpoint : ∀ s : String, ∀ d ∈ (("." ++ s).toList ++ c :: rest).head?, d.isDigit = false := by
    intro s d hd
    rw [String.toList_append] at hd
    obtain rfl := Option.some.inj hd
    rfl
  rw [fractionText]
  split
  · intro d hd
    obtain rfl := Option.some.inj hd
    exact hc
  · split
    · exact hpoint _
    · split <;> exact hpoint _

/-! ## Instants -/

/-- An instant that there is: its date is kept, and only the last second of a minute is long. -/
structure Valid (t : Instant) : Prop where
  year : Date.minYear ≤ t.date.year ∧ t.date.year ≤ Date.maxYear
  nano : t.nano < 2 * nanosPerSecond
  leap : nanosPerSecond ≤ t.nano → t.daySecond % 60 = 59

theorem clock_lt {t : Instant} (h : t.Valid) :
    t.clock.1 < 24 ∧ t.clock.2.1 < 60 ∧ t.clock.2.2 ≤ 60 := by
  have hnano : t.nano < 2 * 1000000000 := h.nano
  have hday : t.daySecond = (t.second % 86400).toNat := rfl
  have hsecond : nanosPerSecond = 1000000000 := rfl
  simp only [clock, hsecond]
  omega

theorem ofParts?_clock {t : Instant} (h : t.Valid) :
    ofParts? t.date t.clock.1 t.clock.2.1 t.clock.2.2 (t.nano % nanosPerSecond) 0 = some t := by
  obtain ⟨hhour, hminute, hlast⟩ := clock_lt h
  obtain ⟨⟨hmin, hmax⟩, hnano, hleap⟩ := h
  have hsecond : nanosPerSecond = 1000000000 := rfl
  have hday : t.daySecond = (t.second % 86400).toNat := rfl
  have hdays : t.date.toDays = t.second / 86400 := Date.toDays_ofDays _
  have hvalid : t.date.isValid = true := Date.isValid_ofDays _
  rw [hsecond] at hnano hleap
  have hlong : t.clock.2.2 = 60 ↔ 1000000000 ≤ t.nano := by
    simp only [clock, hsecond]
    omega
  have hlocal : t.date.toDays * 86400
      + (t.clock.1 * 3600 + t.clock.2.1 * 60 + min t.clock.2.2 59 : Nat) - 0 = t.second := by
    simp only [clock, hsecond, hdays]
    omega
  have hback : (if t.clock.2.2 = 60 then t.nano % 1000000000 + 1000000000
      else t.nano % 1000000000) = t.nano := by
    split <;> omega
  have hall : (t.date.isValid && t.clock.1 < 24 && t.clock.2.1 < 60 && t.clock.2.2 ≤ 60
      && (0 : Int).natAbs < 86400 && Date.minYear ≤ t.date.year && t.date.year ≤ Date.maxYear)
      = true := by
    simp [hvalid, hhour, hminute, hlast, hmin, hmax]
  rw [ofParts?, if_pos hall]
  simp only [hsecond, hlocal, hback]
  exact if_pos (by simp [hmin, hmax])

/-- The text in pieces, each with what stands behind it. -/
theorem toList_text (t : Instant) : t.text.toList
    = (yearText t.date.year).toList ++ '-' :: ((paddedText 2 t.date.month).toList
      ++ '-' :: ((paddedText 2 t.date.day).toList ++ 'T' :: ((paddedText 2 t.clock.1).toList
      ++ ':' :: ((paddedText 2 t.clock.2.1).toList ++ ':' :: ((paddedText 2 t.clock.2.2).toList
      ++ ((fractionText (t.nano % nanosPerSecond)).toList ++ ['Z'])))))) := by
  have hdash : "-".toList = ['-'] := rfl
  have hcolon : ":".toList = [':'] := rfl
  have htime : "T".toList = ['T'] := rfl
  have hzone : "Z".toList = ['Z'] := rfl
  simp only [text, String.toList_append, hdash, hcolon, htime, hzone, List.append_assoc,
    List.cons_append, List.nil_append]

/-- An instant is read back. -/
theorem ofText?_text {t : Instant} (h : t.Valid) : ofText? t.text = some t := by
  have hstop : ∀ c : Char, c.isDigit = false → ∀ (s : List Char), ∀ d ∈ (c :: s).head?,
      d.isDigit = false := fun c hc s d hd => Option.some.inj hd ▸ hc
  have hdash := hstop '-' rfl
  have hcolon := hstop ':' rfl
  have hvalid : t.date.isValid = true := Date.isValid_ofDays _
  obtain ⟨hmonth, hday⟩ := Date.lt_hundred_of_isValid hvalid
  obtain ⟨hhour, hminute, hsecond⟩ := clock_lt h
  have hpart : t.nano % nanosPerSecond < nanosPerSecond := Nat.mod_lt _ (by decide)
  have hzone : readZone (trimStart ['Z']) = some (0, []) := by decide
  have hdashMark : ∀ s, readMark '-' ('-' :: s) = some s := readMark_cons (by decide)
  have hcolonMark : ∀ s, readMark ':' (':' :: s) = some s := readMark_cons (by decide)
  have hthen : ∀ {α β : Type} {x : Option α} {f : α → Option β} {a : α} {b : β},
      x = some a → f a = some b → x.bind f = some b :=
    fun hx hf => Option.bind_eq_some_iff.mpr ⟨_, hx, hf⟩
  rw [ofText?, toList_text]
  refine hthen (readYear_append _ (hdash _)) (hthen (hdashMark _) ?_)
  refine hthen (readNumber_two hmonth (hdash _)) (hthen (hdashMark _) ?_)
  refine hthen (readNumber_two hday (hstop 'T' rfl _)) ((if_pos rfl).trans (hthen rfl ?_))
  refine hthen (readNumber_two (Nat.lt_trans hhour (by decide)) (hcolon _))
    (hthen (hcolonMark _) ?_)
  refine hthen (readNumber_two (Nat.lt_trans hminute (by decide)) (hcolon _))
    (hthen (hcolonMark _) ?_)
  refine hthen (readNumber_two (Nat.lt_of_le_of_lt hsecond (by decide))
    (not_digit_behind_seconds _ rfl _)) ?_
  refine hthen (readFraction_append hpart rfl (by decide) _) (hthen hzone ?_)
  exact (if_pos rfl).trans (ofParts?_clock h)

end Instant

end Gapfill
