import Mathlib.Tactic.Ring
import Gapfill.Number.Digits

/-!
# Digits denote what they are written for

Decimal digits are read back to the number (`ofDecimalDigits_decimalDigits`), and
the last digits in base 16 to what is left of it (`readHex_hexDigits`). Digits
that are written in two pieces are one number (`ofDecimalDigits_append`,
`hexDigits_append`).
-/

namespace Gapfill

/-! ## Decimal digits -/

theorem ofDecimalDigits_append (u v : List Char) :
    ofDecimalDigits (u ++ v) = ofDecimalDigits u * 10 ^ v.length + ofDecimalDigits v := by
  unfold ofDecimalDigits
  rw [List.foldl_append]
  generalize u.foldl _ 0 = n
  induction v generalizing n with
  | nil => simp
  | cons c v ih =>
      rw [List.foldl_cons, List.foldl_cons, ih, ih (0 * 10 + _), List.length_cons]
      ring

theorem ofDecimalDigits_cons (c : Char) (v : List Char) :
    ofDecimalDigits (c :: v) = (c.toNat - '0'.toNat) * 10 ^ v.length + ofDecimalDigits v := by
  rw [← List.singleton_append, ofDecimalDigits_append]
  simp [ofDecimalDigits]

theorem ofDecimalDigits_decimalDigits (n : Nat) : ofDecimalDigits (decimalDigits n) = n := by
  have hfold : ofDecimalDigits (decimalDigits n) = Nat.ofDigitChars 10 (decimalDigits n) 0 := by
    simp only [ofDecimalDigits, Nat.ofDigitChars, Nat.mul_comm 10]
  rw [hfold]
  exact Nat.ofDigitChars_toDigits (by decide) (by decide)

theorem isDigit_of_mem_decimalDigits {n : Nat} {c : Char} (h : c ∈ decimalDigits n) :
    c.isDigit = true := Nat.isDigit_of_mem_toDigits (by decide) (by decide) h

theorem isDigit_of_mem_zeros {k : Nat} {c : Char} (h : c ∈ List.replicate k '0') :
    c.isDigit = true := by
  rw [(List.mem_replicate.mp h).2]
  rfl

theorem ne_of_isDigit {c d : Char} (hc : c.isDigit = true) (hd : d.isDigit = false) : c ≠ d := by
  rintro rfl
  exact Bool.false_ne_true (hd ▸ hc)

theorem decimalDigits_ne_nil (n : Nat) : decimalDigits n ≠ [] := Nat.toDigits_ne_nil

theorem decimalDigits_zero : decimalDigits 0 = ['0'] := Nat.toDigits_zero 10

theorem length_decimalDigits_le_iff {n k : Nat} (hk : 0 < k) :
    (decimalDigits n).length ≤ k ↔ n < 10 ^ k := Nat.length_toDigits_le_iff (by decide) hk

/-- No zeros are written before a number. -/
theorem head_decimalDigits : ∀ {n : Nat}, n ≠ 0 → (decimalDigits n).head? ≠ some '0' := by
  intro n
  induction n using Nat.strongRecOn with
  | ind n ih =>
      intro hn
      by_cases hlt : n < 10
      · rw [decimalDigits, Nat.toDigits_of_lt_base hlt]
        have hchar : ∀ d < 10, d ≠ 0 → d.digitChar ≠ '0' := by decide
        exact fun heq => hchar n hlt hn (Option.some.inj heq)
      · have hge := Nat.le_of_not_lt hlt
        have hfirst := ih (n / 10) (by omega) (by omega)
        rw [decimalDigits, Nat.toDigits_of_base_le (by decide) hge]
        obtain ⟨c, rest, hdigits⟩ := List.exists_cons_of_ne_nil (decimalDigits_ne_nil (n / 10))
        rw [hdigits] at hfirst
        rw [decimalDigits] at hdigits
        rw [hdigits]
        exact hfirst

theorem ofDecimalDigits_lt {digits : List Char} (h : ∀ c ∈ digits, c.isDigit = true) :
    ofDecimalDigits digits < 10 ^ digits.length := by
  induction digits with
  | nil => exact Nat.one_pos
  | cons c digits ih =>
      obtain ⟨hc, hdigits⟩ := List.forall_mem_cons.mp h
      have hlt := ih hdigits
      have hdigit : c.toNat - '0'.toNat ≤ '9'.toNat - '0'.toNat :=
        Nat.sub_le_sub_right (Char.isDigit_iff_toNat.mp hc).2 _
      have hnine : '9'.toNat - '0'.toNat = 9 := rfl
      rw [ofDecimalDigits_cons, List.length_cons, Nat.pow_succ']
      calc (c.toNat - '0'.toNat) * 10 ^ digits.length + ofDecimalDigits digits
          < (c.toNat - '0'.toNat) * 10 ^ digits.length + 10 ^ digits.length :=
            Nat.add_lt_add_left hlt _
        _ = (c.toNat - '0'.toNat + 1) * 10 ^ digits.length := (Nat.succ_mul _ _).symm
        _ ≤ 10 * 10 ^ digits.length := Nat.mul_le_mul_right _ (by omega)

theorem ofDecimalDigits_replicate_zero (k : Nat) : ofDecimalDigits (List.replicate k '0') = 0 := by
  induction k with
  | zero => rfl
  | succ k ih => rw [List.replicate_succ, ofDecimalDigits_cons, ih]; simp

theorem ofDecimalDigits_zeros_append (k : Nat) (digits : List Char) :
    ofDecimalDigits (List.replicate k '0' ++ digits) = ofDecimalDigits digits := by
  rw [ofDecimalDigits_append, ofDecimalDigits_replicate_zero, Nat.zero_mul, Nat.zero_add]

theorem ofDecimalDigits_append_zeros (digits : List Char) (k : Nat) :
    ofDecimalDigits (digits ++ List.replicate k '0') = ofDecimalDigits digits * 10 ^ k := by
  rw [ofDecimalDigits_append, ofDecimalDigits_replicate_zero, List.length_replicate, Nat.add_zero]

/-! ## Digits of base 16 -/

theorem digitValue_digitChar : ∀ d < 16, digitValue d.digitChar = d := by decide

theorem isHexDigit_digitChar : ∀ d < 16, isHexDigit d.digitChar = true := by decide

theorem hexDigits_succ (count n : Nat) :
    hexDigits (count + 1) n = hexDigits count (n / 16) ++ [(n % 16).digitChar] := by
  rw [hexDigits, hexDigitsBackwards, List.reverse_cons]
  rfl

theorem length_hexDigits (count n : Nat) : (hexDigits count n).length = count := by
  induction count generalizing n with
  | zero => rfl
  | succ count ih => rw [hexDigits_succ, List.length_append, ih, List.length_singleton]

theorem hexDigits_append (j k n : Nat) :
    hexDigits j (n / 16 ^ k) ++ hexDigits k n = hexDigits (j + k) n := by
  induction k generalizing n with
  | zero => rw [Nat.pow_zero, Nat.div_one]; exact List.append_nil _
  | succ k ih =>
      rw [Nat.pow_succ', ← Nat.div_div_eq_div_mul, hexDigits_succ, ← List.append_assoc, ih,
        ← Nat.add_assoc, hexDigits_succ]

theorem readHex_hexDigits (count n : Nat) :
    readHex (hexDigits count n) = some (n % 16 ^ count) := by
  induction count generalizing n with
  | zero => rw [Nat.pow_zero, Nat.mod_one]; rfl
  | succ count ih =>
      have hlast : n % 16 < 16 := Nat.mod_lt n (by decide)
      have hdigits := ih (n / 16)
      rw [readHex] at hdigits
      split at hdigits
      · rename_i hall
        rw [hexDigits_succ, readHex, List.all_append, hall, List.all_cons,
          isHexDigit_digitChar _ hlast]
        have hvalue := Option.some.inj hdigits
        rw [ofDigitsIn] at hvalue
        simp only [ofDigitsIn, List.foldl_append, hvalue, List.foldl_cons, List.foldl_nil,
          digitValue_digitChar _ hlast]
        rw [Nat.pow_succ', Nat.mod_mul, Nat.add_comm, Nat.mul_comm 16]
        rfl
      · cases hdigits

end Gapfill
