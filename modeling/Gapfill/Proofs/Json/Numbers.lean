import Gapfill.Json.Number
import Gapfill.Proofs.Number.Digits
import Gapfill.Proofs.Text.Runs

/-!
# Numbers in JSON

A number that is written in its parts is read part by part, whatever stands
behind it (`readNumber_text`). Of its digits as many count as make a number of 64
bits. For each further one the power of ten is greater by one, so what is read is
not more than what is written, and the same if all of them count (`value_eq`).
-/

namespace Gapfill.Json

/-- Behind a number stands nothing that would go on with it. -/
def Ends (s : List Char) : Prop :=
  ∀ c ∈ s.head?, c.isDigit = false ∧ c ≠ '.' ∧ c ≠ 'e' ∧ c ≠ 'E'

/-- Digits as they stand before a point. -/
structure IsWhole (whole : List Char) : Prop where
  digits : ∀ c ∈ whole, c.isDigit = true
  ne_nil : whole ≠ []
  zero : whole.head? = some '0' → whole = ['0']

theorem isWhole_decimalDigits (n : Nat) : IsWhole (decimalDigits n) where
  digits := fun _ hc => isDigit_of_mem_decimalDigits hc
  ne_nil := decimalDigits_ne_nil n
  zero := by
    intro hhead
    by_cases hn : n = 0
    · rw [hn, decimalDigits_zero]
    · exact absurd hhead (head_decimalDigits hn)

/-! ## Parts of a number -/

def placesText (places : List Char) : List Char :=
  if places.isEmpty then [] else '.' :: places

def powerText : Option (Bool × List Char) → List Char
  | none => []
  | some (minus, digits) => 'e' :: (if minus then '-' else '+') :: digits

/-- A number as it is written, in its parts. The power is that of ten, its sign and its digits. -/
structure NumberText where
  negative : Bool
  whole : List Char
  places : List Char
  power : Option (Bool × List Char)

theorem readWhole_append {whole s : List Char} (hwhole : IsWhole whole)
    (hs : ∀ c ∈ s.head?, c.isDigit = false) : readWhole (whole ++ s) = some (whole, s) := by
  obtain ⟨c, rest, rfl⟩ := List.exists_cons_of_ne_nil hwhole.ne_nil
  by_cases hzero : c = '0'
  · subst hzero
    have hrest : rest = [] := (List.cons.inj (hwhole.zero rfl)).2
    subst hrest
    have hnone : s.head?.any Char.isDigit = false := by
      cases s with
      | nil => rfl
      | cons d s => exact hs d rfl
    rw [List.singleton_append, readWhole, hnone]
    rfl
  · rw [List.cons_append, readWhole, ← List.cons_append, takeWhile_run hwhole.digits hs,
      dropWhile_run hwhole.digits hs]
    · rfl
    · exact fun _ heq => hzero (List.cons.inj heq).1

theorem readPlaces_append {places s : List Char} (hplaces : ∀ c ∈ places, c.isDigit = true)
    (hs : ∀ c ∈ s.head?, c.isDigit = false ∧ c ≠ '.') :
    readPlaces (placesText places ++ s) = some (places, s) := by
  cases places with
  | nil =>
      cases s with
      | nil => rfl
      | cons c s =>
          have hc := (hs c rfl).2
          change readPlaces (c :: s) = _
          rw [readPlaces]
          exact fun rest heq => hc (List.cons.inj heq).1
  | cons c places =>
      have hdigit : ∀ d ∈ s.head?, d.isDigit = false := fun d hd => (hs d hd).1
      change readPlaces ('.' :: ((c :: places) ++ s)) = _
      rw [readPlaces, takeWhile_run hplaces hdigit, dropWhile_run hplaces hdigit]
      rfl

theorem readPower_append {power : Option (Bool × List Char)} {s : List Char}
    (hpower : ∀ minus digits, power = some (minus, digits) →
      digits ≠ [] ∧ ∀ c ∈ digits, c.isDigit = true) (hs : Ends s) :
    readPower (powerText power ++ s) = some (power, s) := by
  cases power with
  | none =>
      cases s with
      | nil => rfl
      | cons c s =>
          obtain ⟨-, -, hlower, hupper⟩ := hs c rfl
          change readPower (c :: s) = _
          rw [readPower, if_neg (by simp [hlower, hupper])]
  | some written =>
      obtain ⟨minus, digits⟩ := written
      obtain ⟨hne, hdigits⟩ := hpower minus digits rfl
      have hdigit : ∀ d ∈ s.head?, d.isDigit = false := fun d hd => (hs d hd).1
      have hsign : Binary64.readSign ((if minus then '-' else '+') :: (digits ++ s))
          = (minus, digits ++ s) := by
        cases minus <;> rfl
      change readPower ('e' :: (if minus then '-' else '+') :: (digits ++ s)) = _
      rw [readPower, if_pos (by decide), hsign]
      dsimp only
      rw [takeWhile_run hdigits hdigit, dropWhile_run hdigits hdigit,
        if_neg (by simpa using hne)]

namespace NumberText

def text (t : NumberText) : List Char :=
  (if t.negative then ['-'] else []) ++ (t.whole ++ (placesText t.places ++ powerText t.power))

/-- What is read of the number. -/
def value (t : NumberText) : Json :=
  let (digits, dropped) := leadingDigits 0 t.whole
  let (digits, ignored) := leadingDigits digits t.places
  let start : Int := dropped.length - (t.places.length - ignored.length : Nat)
  match t.power with
  | some (minus, written) => ofExponent t.negative digits start minus written
  | none =>
    if t.places.isEmpty then wholeNumber t.negative t.whole else ofParts t.negative digits start

structure Valid (t : NumberText) : Prop where
  whole : IsWhole t.whole
  places : ∀ c ∈ t.places, c.isDigit = true
  power : ∀ minus digits, t.power = some (minus, digits) →
    digits ≠ [] ∧ ∀ c ∈ digits, c.isDigit = true

/-- What stands behind the digits before the point is no digit. -/
theorem not_digit_behind_whole {t : NumberText} {rest : List Char} (hrest : Ends rest) :
    ∀ c ∈ (placesText t.places ++ (powerText t.power ++ rest)).head?, c.isDigit = false := by
  unfold placesText powerText
  split
  · split
    · exact fun c hc => (hrest c hc).1
    · intro c hc
      obtain rfl := Option.some.inj hc
      decide
  · intro c hc
    obtain rfl := Option.some.inj hc
    decide

theorem not_digit_behind_places {t : NumberText} {rest : List Char} (hrest : Ends rest) :
    ∀ c ∈ (powerText t.power ++ rest).head?, c.isDigit = false ∧ c ≠ '.' := by
  unfold powerText
  split
  · exact fun c hc => ⟨(hrest c hc).1, (hrest c hc).2.1⟩
  · intro c hc
    obtain rfl := Option.some.inj hc
    decide

theorem text_append {t : NumberText} (ht : t.Valid) (rest : List Char) {body : List Char}
    (hbody : t.whole ++ (placesText t.places ++ (powerText t.power ++ rest)) = body) :
    (t.negative = true ∧ t.text ++ rest = '-' :: body)
      ∨ (t.negative = false ∧ t.text ++ rest = body ∧ ∀ s, body ≠ '-' :: s) := by
  have htext : t.text ++ rest = (if t.negative then ['-'] else []) ++ body := by
    rw [text, ← hbody]
    simp only [List.append_assoc]
  rw [htext]
  cases t.negative with
  | true => exact Or.inl ⟨rfl, rfl⟩
  | false =>
      refine Or.inr ⟨rfl, rfl, ?_⟩
      obtain ⟨c, digits, hcons⟩ := List.exists_cons_of_ne_nil ht.whole.ne_nil
      rintro s rfl
      rw [hcons, List.cons_append] at hbody
      have hminus : ('-').isDigit = true :=
        (List.cons.inj hbody).1 ▸ ht.whole.digits c (hcons ▸ List.mem_cons_self)
      exact absurd hminus (by decide)

/-- A number is read part by part. -/
theorem readNumber_text {t : NumberText} (ht : t.Valid) {rest : List Char} (hrest : Ends rest) :
    readNumber (t.text ++ rest) = some (t.value, rest) := by
  have hwhole := readWhole_append ht.whole (not_digit_behind_whole (t := t) hrest)
  have hplaces := readPlaces_append ht.places (not_digit_behind_places (t := t) hrest)
  have hpower := readPower_append ht.power hrest
  generalize hbody : t.whole ++ (placesText t.places ++ (powerText t.power ++ rest)) = body
    at hwhole
  unfold readNumber value
  split
  rename_i negative unsigned hsign
  have hparts : negative = t.negative ∧ unsigned = body := by
    rcases text_append ht rest hbody with ⟨hnegative, htext⟩ | ⟨hnegative, htext, hminus⟩
    · rw [htext] at hsign
      cases hsign
      exact ⟨hnegative.symm, rfl⟩
    · rw [htext] at hsign
      split at hsign
      · exact absurd rfl (hminus _)
      · cases hsign
        exact ⟨hnegative.symm, rfl⟩
  obtain ⟨rfl, rfl⟩ := hparts
  simp only [hwhole, hplaces, hpower, Option.bind_eq_bind, Option.bind_some]
  cases t.power with
  | none =>
      dsimp only
      split <;> rfl
  | some written => rfl

end NumberText

/-! ## Leading digits -/

/-- Of some digits all but the last `k` are read, so that the number is at most what is written. -/
structure Leads (digits : List Char) (m k : Nat) : Prop where
  le : m * 10 ^ k ≤ ofDecimalDigits digits
  le_max : m ≤ maxCount
  all : ofDecimalDigits digits ≤ maxCount → m = ofDecimalDigits digits ∧ k = 0

theorem leadingDigits_of_le {n : Nat} {digits : List Char}
    (h : n * 10 ^ digits.length + ofDecimalDigits digits ≤ maxCount) :
    leadingDigits n digits = (n * 10 ^ digits.length + ofDecimalDigits digits, []) := by
  induction digits generalizing n with
  | nil => simp [leadingDigits, ofDecimalDigits]
  | cons c digits ih =>
      have hvalue : n * 10 ^ (c :: digits).length + ofDecimalDigits (c :: digits)
          = (n * 10 + (c.toNat - '0'.toNat)) * 10 ^ digits.length + ofDecimalDigits digits := by
        rw [ofDecimalDigits_cons, List.length_cons]
        ring
      rw [hvalue] at h ⊢
      have hnext : n * 10 + (c.toNat - '0'.toNat) ≤ maxCount :=
        Nat.le_trans (Nat.le_mul_of_pos_right _ (Nat.pow_pos (by decide)))
          (Nat.le_trans (Nat.le_add_right _ _) h)
      rw [leadingDigits, if_pos hnext, ih h]

theorem leadingDigits_spec {n : Nat} (hn : n ≤ maxCount) (digits : List Char) :
    ∃ taken ignored, digits = taken ++ ignored
      ∧ leadingDigits n digits = (n * 10 ^ taken.length + ofDecimalDigits taken, ignored)
      ∧ n * 10 ^ taken.length + ofDecimalDigits taken ≤ maxCount := by
  induction digits generalizing n with
  | nil => exact ⟨[], [], rfl, by simp [leadingDigits, ofDecimalDigits], by simpa [ofDecimalDigits]⟩
  | cons c digits ih =>
      by_cases hnext : n * 10 + (c.toNat - '0'.toNat) ≤ maxCount
      · obtain ⟨taken, ignored, rfl, hlead, hle⟩ := ih hnext
        have hvalue : n * 10 ^ (c :: taken).length + ofDecimalDigits (c :: taken)
            = (n * 10 + (c.toNat - '0'.toNat)) * 10 ^ taken.length + ofDecimalDigits taken := by
          rw [ofDecimalDigits_cons, List.length_cons]
          ring
        refine ⟨c :: taken, ignored, rfl, ?_, ?_⟩
        · rw [leadingDigits, if_pos hnext, hlead, hvalue]
        · rwa [hvalue]
      · refine ⟨[], c :: digits, rfl, ?_, by simpa [ofDecimalDigits]⟩
        rw [leadingDigits, if_neg hnext]
        simp [ofDecimalDigits]

/-- What is read of a number with few digits before its point. -/
theorem NumberText.value_eq {t : NumberText} (hwhole : ofDecimalDigits t.whole ≤ maxCount) :
    ∃ m k, Leads (t.whole ++ t.places) m k
      ∧ t.value = match t.power with
        | some (minus, written) => ofExponent t.negative m (k - t.places.length) minus written
        | none =>
          if t.places.isEmpty then wholeNumber t.negative t.whole
          else ofParts t.negative m (k - t.places.length) := by
  have hzero : 0 * 10 ^ t.whole.length + ofDecimalDigits t.whole = ofDecimalDigits t.whole := by
    rw [Nat.zero_mul, Nat.zero_add]
  have hfirst : leadingDigits 0 t.whole = (ofDecimalDigits t.whole, []) := by
    rw [leadingDigits_of_le (hzero.symm ▸ hwhole), hzero]
  obtain ⟨taken, ignored, hsplit, hlead, hle⟩ := leadingDigits_spec hwhole t.places
  have hvalue : ofDecimalDigits (t.whole ++ t.places)
      = (ofDecimalDigits t.whole * 10 ^ taken.length + ofDecimalDigits taken) * 10 ^ ignored.length
        + ofDecimalDigits ignored := by
    rw [hsplit, ← List.append_assoc, ofDecimalDigits_append, ofDecimalDigits_append t.whole]
  refine ⟨_, ignored.length, ⟨?_, hle, ?_⟩, ?_⟩
  · rw [hvalue]
    exact Nat.le_add_right _ _
  · intro hmax
    rw [ofDecimalDigits_append] at hmax
    have hall := leadingDigits_of_le hmax
    rw [hlead] at hall
    obtain ⟨hm, hignored⟩ := Prod.mk.inj hall
    rw [hm, hignored, ofDecimalDigits_append]
    exact ⟨rfl, rfl⟩
  · have hstart : (([] : List Char).length : Int) - (t.places.length - ignored.length : Nat)
        = ignored.length - t.places.length := by
      have hlength := congrArg List.length hsplit
      rw [List.length_append] at hlength
      rw [List.length_nil]
      omega
    unfold value
    rw [hfirst]
    dsimp only
    rw [hlead]
    dsimp only
    rw [hstart]

end Gapfill.Json
