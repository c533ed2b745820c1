import Gapfill.Proofs.Json.Numbers
import Gapfill.Proofs.Number.Shortest

/-!
# Decimals in JSON

A decimal is written in positional notation or with an exponent, and either text
has the form of a number (`text_ofDecimal`, `valid_ofDecimal`). What is read of it
are its leading digits times a power of ten (`value_positional`,
`value_scientific`): all its digits, unless they make a number of more than 64
bits.
-/

namespace Gapfill

/-! ## Positional notation -/

namespace Binary64.Decimal

/-- The place of the point, counted from the first digit. -/
def point (d : Decimal) : Int := (decimalDigits d.digits).length + d.exponent

/-- The digits before and behind the point, as they have to be for a decimal. -/
structure Positional (d : Decimal) (whole places : List Char) : Prop where
  isWhole : Json.IsWhole whole
  digits : ∀ c ∈ places, c.isDigit = true
  value : ofDecimalDigits (whole ++ places) = d.digits * 10 ^ d.exponent.toNat
  length : places.length = (-d.exponent).toNat
  short : whole.length = 1 ∨ (whole.length : Int) ≤ d.point

theorem positional_of_nonneg {d : Decimal} (h : 0 ≤ d.exponent) :
    Positional d d.positional.1 d.positional.2 := by
  rw [positional, if_pos h]
  dsimp only
  have hlength : 0 = (-d.exponent).toNat := by omega
  by_cases hzero : d.digits = 0
  · rw [if_pos hzero]
    refine ⟨Json.isWhole_decimalDigits _, by simp, ?_, hlength,
      Or.inr (by rw [point]; omega)⟩
    rw [List.append_nil, ofDecimalDigits_decimalDigits, hzero, Nat.zero_mul]
  · rw [if_neg hzero]
    obtain ⟨hdigits, hne, -⟩ := Json.isWhole_decimalDigits d.digits
    refine ⟨⟨?_, by simp [hne], ?_⟩, by simp, ?_, hlength, ?_⟩
    · exact List.forall_mem_append.mpr ⟨hdigits, fun _ => isDigit_of_mem_zeros⟩
    · intro hhead
      obtain ⟨c, rest, hcons⟩ := List.exists_cons_of_ne_nil hne
      have hfirst := head_decimalDigits hzero
      rw [hcons] at hhead hfirst
      exact absurd hhead hfirst
    · rw [List.append_nil, ofDecimalDigits_append_zeros, ofDecimalDigits_decimalDigits]
    · right
      rw [List.length_append, List.length_replicate, point]
      omega

theorem positional_of_neg {d : Decimal} (h : d.exponent < 0) :
    Positional d d.positional.1 d.positional.2 := by
  obtain ⟨places, hplaces⟩ : ∃ places : Nat, d.exponent = -(places : Int) - 1 :=
    ⟨(-d.exponent - 1).toNat, by omega⟩
  have htoNat : (-d.exponent).toNat = places + 1 := by omega
  rw [positional, if_neg (by omega)]
  dsimp only
  rw [htoNat]
  generalize hpadded : List.replicate (places + 1 + 1 - (decimalDigits d.digits).length) '0'
    ++ decimalDigits d.digits = padded
  have hlength : padded.length
      = places + 1 + 1 - (decimalDigits d.digits).length + (decimalDigits d.digits).length := by
    rw [← hpadded, List.length_append, List.length_replicate]
  have hdigits : ∀ c ∈ padded, c.isDigit = true := by
    rw [← hpadded]
    exact List.forall_mem_append.mpr
      ⟨fun _ => isDigit_of_mem_zeros, fun _ => isDigit_of_mem_decimalDigits⟩
  refine ⟨⟨fun c hc => hdigits c (List.mem_of_mem_take hc), ?_, ?_⟩,
    fun c hc => hdigits c (List.mem_of_mem_drop hc), ?_, ?_, ?_⟩
  · intro hnil
    have := congrArg List.length hnil
    rw [List.length_take, List.length_nil] at this
    omega
  · intro hhead
    by_cases hshort : (decimalDigits d.digits).length ≤ places + 1
    · have hone : padded.length - (places + 1) = 1 := by omega
      rw [hone] at hhead ⊢
      obtain ⟨c, rest, hcons⟩ := List.exists_cons_of_length_pos (l := padded) (by omega)
      rw [hcons] at hhead ⊢
      exact congrArg (fun c => [c]) (Option.some.inj hhead)
    · exfalso
      have hzeros : places + 1 + 1 - (decimalDigits d.digits).length = 0 := by omega
      rw [hzeros, List.replicate_zero, List.nil_append] at hpadded
      rw [← hpadded, List.head?_take, if_neg (by omega)] at hhead
      have hdigit : d.digits ≠ 0 := by
        intro hzero
        rw [hzero, decimalDigits_zero, List.length_singleton] at hshort
        omega
      exact head_decimalDigits hdigit hhead
  · have htoNat' : d.exponent.toNat = 0 := by omega
    rw [List.take_append_drop, ← hpadded, ofDecimalDigits_zeros_append,
      ofDecimalDigits_decimalDigits, htoNat', Nat.pow_zero, Nat.mul_one]
  · rw [List.length_drop]
    omega
  · rw [List.length_take, point]
    omega

theorem positional_spec (d : Decimal) : Positional d d.positional.1 d.positional.2 := by
  by_cases h : 0 ≤ d.exponent
  · exact positional_of_nonneg h
  · exact positional_of_neg (by omega)

end Binary64.Decimal

namespace Json

open Binary64 (Decimal)

/-! ## Decimals -/

/-- A decimal as it is written. -/
def NumberText.ofDecimal (negative : Bool) (d : Decimal) : NumberText :=
  if -5 < d.point ∧ d.point ≤ 16 then
    ⟨negative, d.positional.1, if d.positional.2.isEmpty then ['0'] else d.positional.2, none⟩
  else
    ⟨negative, (decimalDigits d.digits).take 1, (decimalDigits d.digits).drop 1,
      some (d.point - 1 < 0, decimalDigits (d.point - 1).natAbs)⟩

theorem NumberText.text_ofDecimal (negative : Bool) (d : Decimal) :
    (ofDecimal negative d).text = (if negative then ['-'] else []) ++ decimalText d := by
  unfold ofDecimal decimalText
  by_cases hpositional : -5 < d.point ∧ d.point ≤ 16
  · have hcond : (decide (-5 < ((decimalDigits d.digits).length + d.exponent : Int))
        && decide (((decimalDigits d.digits).length + d.exponent : Int) ≤ 16)) = true := by
      simpa [Decimal.point] using hpositional
    rw [if_pos hpositional]
    dsimp only
    rw [if_pos hcond, text]
    dsimp only
    rw [powerText, List.append_nil]
    congr 2
    by_cases hempty : d.positional.2.isEmpty = true
    · rw [if_pos hempty]
      rfl
    · rw [if_neg hempty, placesText, if_neg hempty]
  · have hcond : ¬ (decide (-5 < ((decimalDigits d.digits).length + d.exponent : Int))
        && decide (((decimalDigits d.digits).length + d.exponent : Int) ≤ 16)) = true := by
      simpa [Decimal.point] using hpositional
    rw [if_neg hpositional]
    dsimp only
    rw [if_neg hcond, text]
    dsimp only
    congr 1
    obtain ⟨c, rest, hcons⟩ := List.exists_cons_of_ne_nil (decimalDigits_ne_nil d.digits)
    unfold scientific
    rw [hcons, powerText]
    cases rest <;> simp [placesText, Decimal.point, hcons]

theorem NumberText.valid_ofDecimal (negative : Bool) (d : Decimal) :
    (ofDecimal negative d).Valid := by
  unfold ofDecimal
  split
  · have hpositional := d.positional_spec
    refine ⟨hpositional.isWhole, ?_, fun _ _ h => absurd h (by simp)⟩
    dsimp only
    split
    · exact fun c hc => List.mem_singleton.mp hc ▸ rfl
    · exact hpositional.digits
  · obtain ⟨hdigits, hne, hzero⟩ := isWhole_decimalDigits d.digits
    refine ⟨⟨fun c hc => hdigits c (List.mem_of_mem_take hc), by simpa using hne, ?_⟩,
      fun c hc => hdigits c (List.mem_of_mem_drop hc), ?_⟩
    · intro hhead
      obtain ⟨c, rest, hcons⟩ := List.exists_cons_of_ne_nil hne
      dsimp only at hhead ⊢
      rw [hcons] at hhead ⊢
      exact congrArg (fun c => [c]) (Option.some.inj hhead)
    · intro minus digits h
      obtain ⟨-, rfl⟩ := Prod.mk.inj (Option.some.inj h)
      exact ⟨decimalDigits_ne_nil _, fun c hc => isDigit_of_mem_decimalDigits hc⟩

theorem le_maxCount_of_lt_pow {n k : Nat} (h : n < 10 ^ k) (hk : k ≤ 19) : n ≤ maxCount :=
  Nat.le_trans (Nat.le_of_lt h)
    (Nat.le_trans (Nat.pow_le_pow_right (by decide) hk) (by decide +kernel))

/-- Of a decimal its leading digits are read, all of them if they make a number of 64 bits. For each
of the others the power of ten is greater by one. -/
structure ReadAs (d : Decimal) (negative : Bool) (value : Json) (m k : Nat) : Prop where
  le : m * 10 ^ k ≤ d.digits
  le_max : m ≤ maxCount
  all : d.digits ≤ maxCount → m = d.digits ∧ k = 0
  value : value = ofParts negative m (d.exponent + k)

/-- In positional notation a whole number is read as ten times as many tenths. -/
theorem NumberText.value_positional (negative : Bool) {d : Decimal}
    (hform : -5 < d.point ∧ d.point ≤ 16) :
    (0 ≤ d.exponent ∧ (ofDecimal negative d).value
        = ofParts negative (d.digits * 10 ^ d.exponent.toNat * 10) (-1))
      ∨ ∃ m k, ReadAs d negative (ofDecimal negative d).value m k := by
  have hnumber : ofDecimal negative d = ⟨negative, d.positional.1,
      if d.positional.2.isEmpty then ['0'] else d.positional.2, none⟩ := if_pos hform
  obtain ⟨hwhole, hplaces, hvalue, hlength, hshort⟩ := d.positional_spec
  have hlt : ofDecimalDigits d.positional.1 < 10 ^ 16 :=
    Nat.lt_of_lt_of_le (ofDecimalDigits_lt hwhole.digits)
      (Nat.pow_le_pow_right (by decide) (by omega))
  obtain ⟨m, k, hleads, hread⟩ := value_eq (t := ofDecimal negative d)
    (by rw [hnumber]; exact le_maxCount_of_lt_pow hlt (by decide))
  rw [hnumber] at hleads hread ⊢
  dsimp only at hleads hread
  by_cases hnonneg : 0 ≤ d.exponent
  · left
    have hnil : d.positional.2 = [] := List.length_eq_zero_iff.mp (by omega)
    rw [hnil] at hleads hread hvalue
    rw [List.append_nil] at hvalue
    have hall : ofDecimalDigits (d.positional.1 ++ ['0'])
        = d.digits * 10 ^ d.exponent.toNat * 10 := by
      rw [← hvalue]
      exact ofDecimalDigits_append_zeros d.positional.1 1
    obtain ⟨hm, hk⟩ := hleads.all (by
      change ofDecimalDigits (d.positional.1 ++ ['0']) ≤ maxCount
      rw [hall, ← hvalue]
      exact le_maxCount_of_lt_pow (k := 17) (by omega) (by decide))
    refine ⟨hnonneg, ?_⟩
    rw [hnil, hread, hm, hk]
    exact congrArg (ofParts negative · (-1)) hall
  · right
    have hplacesne : d.positional.2.isEmpty = false := by
      rw [List.isEmpty_eq_false_iff, ← List.length_pos_iff]
      omega
    have hpow : d.exponent.toNat = 0 := by omega
    rw [hpow, Nat.pow_zero, Nat.mul_one] at hvalue
    rw [hplacesne] at hleads hread ⊢
    simp only [Bool.false_eq_true, if_false] at hleads hread ⊢
    refine ⟨m, k, hvalue ▸ hleads.le, hleads.le_max, hvalue ▸ hleads.all, ?_⟩
    rw [hread, hplacesne]
    have hstart : (k : Int) - d.positional.2.length = d.exponent + k := by omega
    rw [hstart]
    rfl

theorem NumberText.value_scientific (negative : Bool) {d : Decimal}
    (hform : ¬ (-5 < d.point ∧ d.point ≤ 16)) (hpower : (d.point - 1).natAbs ≤ maxExponent) :
    ∃ m k, ReadAs d negative (ofDecimal negative d).value m k := by
  have hnumber : ofDecimal negative d = ⟨negative, (decimalDigits d.digits).take 1,
      (decimalDigits d.digits).drop 1,
      some (d.point - 1 < 0, decimalDigits (d.point - 1).natAbs)⟩ := if_neg hform
  have hwhole := (valid_ofDecimal negative d).whole.digits
  rw [hnumber] at hwhole
  have hlt : ofDecimalDigits ((decimalDigits d.digits).take 1) < 10 ^ 1 :=
    Nat.lt_of_lt_of_le (ofDecimalDigits_lt hwhole)
      (Nat.pow_le_pow_right (by decide) (List.length_take_le 1 _))
  obtain ⟨m, k, hleads, hread⟩ := value_eq (t := ofDecimal negative d)
    (by rw [hnumber]; exact le_maxCount_of_lt_pow hlt (by decide))
  rw [hnumber] at hleads hread ⊢
  dsimp only at hleads hread
  rw [List.take_append_drop] at hleads
  have hvalue := ofDecimalDigits_decimalDigits d.digits
  refine ⟨m, k, hvalue ▸ hleads.le, hleads.le_max, hvalue ▸ hleads.all, ?_⟩
  have hlength := List.length_pos_iff.mpr (decimalDigits_ne_nil d.digits)
  rw [hread, ofExponent, ofDecimalDigits_decimalDigits, if_neg (Nat.not_lt.mpr hpower),
    List.length_drop]
  have hpoint : d.point = (decimalDigits d.digits).length + d.exponent := rfl
  congr 1
  split
  · rename_i hminus
    have := of_decide_eq_true hminus
    omega
  · rename_i hplus
    have : ¬ d.point - 1 < 0 := by simpa using hplus
    omega

end Json

end Gapfill
