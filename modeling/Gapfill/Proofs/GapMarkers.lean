import Gapfill.Proofs.Authored.Delimiters
import Gapfill.Proofs.ReportContents

/-!
# Every marker is settled

A marker is a piece of the question text, `[[`, digits and `]]`, wherever it
stands (`MarkerAt`). The scan over the text finds each of them, in their order
(`sublist_markers`); so two markers are two entries of the scan, and a clean
report, which allows no entry twice, settles them all.

This is true of the numbers that the scan keeps. A number beyond 64 bits is
dropped without a word, and a clean report does not tell that there is no answer
for it (`beyond_maxGap_is_valid`). So a clean report settles every marker exactly
if no number is that great (`markers_settled_iff`).
-/

namespace Gapfill

/-! ## Markers in a text -/

/-- Behind `before` stands the marker with these digits. -/
def MarkerAt (text before digits : List Char) : Prop :=
  digits ≠ [] ∧ (∀ c ∈ digits, c.isDigit = true)
    ∧ ∃ behind, text = before ++ '[' :: '[' :: (digits ++ ']' :: ']' :: behind)

theorem marker?_eq_some_iff {text digits : List Char} :
    marker? text = some digits ↔ MarkerAt text [] digits := by
  constructor
  · intro h
    unfold marker? at h
    split at h
    · rename_i rest
      dsimp only at h
      split at h
      · rename_i behind hbehind
        split at h
        · exact absurd h (Option.some_ne_none _).symm
        · rename_i hne
          obtain rfl := Option.some.inj h
          refine ⟨fun hnil => hne (by simp [hnil]),
            fun c hc => List.mem_takeWhile_imp hc, behind, ?_⟩
          rw [List.nil_append, ← hbehind, List.takeWhile_append_dropWhile]
      · exact absurd h (Option.some_ne_none _).symm
    · exact absurd h (Option.some_ne_none _).symm
  · rintro ⟨hne, hdigits, behind, rfl⟩
    have hbracket : Char.isDigit ']' = false := by decide
    simp only [List.nil_append, marker?, takeWhile_append_cons hdigits hbracket,
      dropWhile_append_cons hdigits hbracket]
    simpa using hne

/-- Without its first character, a text has the same markers behind what follows it. -/
theorem MarkerAt.tail {c : Char} {text before digits : List Char}
    (h : MarkerAt (c :: text) (c :: before) digits) : MarkerAt text before digits := by
  obtain ⟨hne, hdigits, behind, heq⟩ := h
  exact ⟨hne, hdigits, behind, (List.cons.inj heq).2⟩

theorem MarkerAt.exists_prefix {text before digits : List Char} (h : MarkerAt text before digits) :
    before <+: text ∧ text ≠ before := by
  obtain ⟨-, -, behind, rfl⟩ := h
  exact ⟨List.prefix_append _ _, by simp⟩

theorem markers_sublist (c : Char) (text : List Char) :
    (markers text).Sublist (markers (c :: text)) := by
  rw [markers]
  split
  · exact List.sublist_cons_self _ _
  · exact List.Sublist.refl _

theorem mem_markers : ∀ {before text digits : List Char}, MarkerAt text before digits →
    digits ∈ markers text
  | [], text, digits, h => by
      obtain ⟨c, rest, rfl⟩ := List.exists_cons_of_ne_nil h.exists_prefix.2
      rw [markers, marker?_eq_some_iff.mpr h]
      exact List.mem_cons_self
  | c :: before, text, digits, h => by
      obtain ⟨rest, rfl⟩ := h.exists_prefix.1
      exact (markers_sublist c _).subset (mem_markers h.tail)

/-- Of two markers, the one behind the shorter text is scanned first. -/
theorem sublist_markers : ∀ {before before' text digits digits' : List Char},
    MarkerAt text before digits → MarkerAt text before' digits' → before.length < before'.length →
      [digits, digits'].Sublist (markers text)
  | [], [], _, _, _, _, _, hlt => absurd hlt (Nat.lt_irrefl 0)
  | [], c :: before', text, digits, digits', h, h', _ => by
      obtain ⟨rest, rfl⟩ := h'.exists_prefix.1
      rw [List.cons_append, markers, ← List.cons_append, marker?_eq_some_iff.mpr h]
      exact (List.singleton_sublist.mpr (mem_markers h'.tail)).cons_cons digits
  | c :: before, [], _, _, _, _, _, hlt => absurd hlt (Nat.not_lt_zero _)
  | c :: before, c' :: before', text, digits, digits', h, h', hlt => by
      obtain ⟨rest, rfl⟩ := h.exists_prefix.1
      obtain ⟨rest', heq⟩ := h'.exists_prefix.1
      obtain rfl := (List.cons.inj heq).1
      exact (sublist_markers h.tail h'.tail (Nat.lt_of_succ_lt_succ hlt)).trans
        (markers_sublist _ _)

/-- The places of two markers are ordered. -/
theorem MarkerAt.length_ne {text before before' digits digits' : List Char}
    (h : MarkerAt text before digits) (h' : MarkerAt text before' digits')
    (hne : before ≠ before') :
    before.length < before'.length ∨ before'.length < before.length := by
  rcases Nat.lt_trichotomy before.length before'.length with hlt | heq | hgt
  · exact Or.inl hlt
  · have hbegin := List.prefix_of_prefix_length_le h.exists_prefix.1 h'.exists_prefix.1
      (Nat.le_of_eq heq)
    exact absurd (hbegin.eq_of_length heq) hne
  · exact Or.inr hgt

/-! ## Markers and numbers of gaps -/

theorem mem_gapReferences {text : String} {before digits : List Char}
    (h : MarkerAt text.toList before digits) (hle : ofDecimalDigits digits ≤ maxGap) :
    ofDecimalDigits digits ∈ gapReferences text := by
  unfold gapReferences
  exact List.mem_filter.mpr ⟨List.mem_map_of_mem (mem_markers h), by simpa using hle⟩

/-- Two markers with one number are two references to one gap. -/
theorem sublist_gapReferences {text : String} {before before' digits digits' : List Char}
    (h : MarkerAt text.toList before digits) (h' : MarkerAt text.toList before' digits')
    (hlt : before.length < before'.length) (hle : ofDecimalDigits digits ≤ maxGap)
    (heq : ofDecimalDigits digits = ofDecimalDigits digits') :
    [ofDecimalDigits digits, ofDecimalDigits digits].Sublist (gapReferences text) := by
  have hscan := ((sublist_markers h h' hlt).map ofDecimalDigits).filter (· ≤ maxGap)
  simpa [gapReferences, ← heq, hle] using hscan

/-! ## Clean reports -/

/-- There is an answer for the gap, and it is the text of a field. The first answer is for gap 1. -/
def AnswerReads (answers : List String) (gap : Nat) : Prop :=
  ∃ index text field, answers[index]? = some text ∧ text.isEmpty = false
    ∧ Field.parse .cloze text = .ok field ∧ gap = index + 1

/-- Every marker whose number satisfies `counts` is the only one with this number, and there is an
answer for it. -/
structure MarkersSettled (counts : Nat → Prop) (text : List Char) (answers : List String) :
    Prop where
  distinct : ∀ before digits before' digits', MarkerAt text before digits →
    MarkerAt text before' digits' → before ≠ before' → counts (ofDecimalDigits digits) →
      ofDecimalDigits digits ≠ ofDecimalDigits digits'
  answered : ∀ before digits, MarkerAt text before digits → counts (ofDecimalDigits digits) →
    AnswerReads answers (ofDecimalDigits digits)

namespace ValidationReport

theorem answerReads_of_isValid {text : String} {answers : List String}
    (h : (ofQuestion .cloze text answers).isValid = true) {gap : Nat}
    (hgap : gap ∈ gapReferences text) : AnswerReads answers gap := by
  obtain ⟨-, -, hiff, hreadable⟩ := (isValid_cloze_iff text answers).mp h
  obtain ⟨index, answer, hanswer, hne, rfl⟩ := (hiff gap).mp hgap
  obtain ⟨field, hfield⟩ := hreadable answer (List.mem_of_getElem? hanswer) hne
  exact ⟨index, answer, field, hanswer, hne, hfield, rfl⟩

/-- A clean report settles the markers with numbers of gaps. -/
theorem markersSettled_of_isValid {text : String} {answers : List String}
    (h : (ofQuestion .cloze text answers).isValid = true) :
    MarkersSettled (· ≤ maxGap) text.toList answers := by
  have hnodup := ((isValid_cloze_iff text answers).mp h).1
  constructor
  · intro before digits before' digits' hat hat' hne hle heq
    have htwice : [ofDecimalDigits digits, ofDecimalDigits digits].Sublist
        (gapReferences text) := by
      rcases hat.length_ne hat' hne with hlt | hgt
      · exact sublist_gapReferences hat hat' hlt hle heq
      · rw [heq] at hle ⊢
        exact sublist_gapReferences hat' hat hgt hle heq.symm
    exact absurd (hnodup.sublist htwice) (by simp)
  · intro before digits hat hle
    exact answerReads_of_isValid h (mem_gapReferences hat hle)

/-- After a clean report the markers with numbers of gaps are settled, and all markers exactly if
every number is one. No list has more answers than there are gaps. -/
theorem markers_settled_iff {text : String} {answers : List String}
    (hvalid : (ofQuestion .cloze text answers).isValid = true)
    (hlength : answers.length ≤ maxGap) :
    MarkersSettled (· ≤ maxGap) text.toList answers
      ∧ (MarkersSettled (fun _ => True) text.toList answers ↔
        ∀ before digits, MarkerAt text.toList before digits → ofDecimalDigits digits ≤ maxGap) := by
  have hsettled := markersSettled_of_isValid hvalid
  refine ⟨hsettled, fun hall before digits hat => ?_, fun hle => ⟨?_, ?_⟩⟩
  · obtain ⟨index, answer, -, hanswer, -, -, hgap⟩ := hall.answered before digits hat trivial
    obtain ⟨hlt, -⟩ := List.getElem?_eq_some_iff.mp hanswer
    omega
  · intro before digits before' digits' hat hat' hne _
    exact hsettled.distinct before digits before' digits' hat hat' hne (hle before digits hat)
  · intro before digits hat _
    exact hsettled.answered before digits hat (hle before digits hat)

/-- Two gaps, one of them with a leading zero. -/
theorem markers_settled_leadingZero :
    (ofQuestion .cloze "[[[02]] [[1]]" ["[[a]]//", "[[b]]//"]).isValid = true
      ∧ MarkersSettled (· ≤ maxGap) "[[[02]] [[1]]".toList ["[[a]]//", "[[b]]//"] := by
  have hvalid : (ofQuestion .cloze "[[[02]] [[1]]" ["[[a]]//", "[[b]]//"]).isValid = true := by
    decide +kernel
  exact ⟨hvalid, (markers_settled_iff hvalid (by decide +kernel)).1⟩

/-- A marker with the number `2 ^ 64` beside the one for the only answer. -/
theorem beyond_maxGap_is_valid :
    (ofQuestion .cloze "[[1]] [[18446744073709551616]]" ["[[a]]//"]).isValid = true
      ∧ ¬ MarkersSettled (fun _ => True) "[[1]] [[18446744073709551616]]".toList ["[[a]]//"] := by
  refine ⟨by decide +kernel, fun hsettled => ?_⟩
  have hat : MarkerAt "[[1]] [[18446744073709551616]]".toList "[[1]] ".toList
      "18446744073709551616".toList :=
    ⟨by decide, List.all_eq_true.mp (by decide), [], by decide⟩
  obtain ⟨index, answer, -, hanswer, -, -, hgap⟩ := hsettled.answered _ _ hat trivial
  have hnumber : ofDecimalDigits "18446744073709551616".toList = 2 ^ 64 := by decide +kernel
  obtain ⟨hlt, -⟩ := List.getElem?_eq_some_iff.mp hanswer
  rw [hnumber] at hgap
  simp only [List.length_singleton] at hlt
  omega

end ValidationReport

end Gapfill
