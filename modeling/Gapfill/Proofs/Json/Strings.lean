import Gapfill.Json.Printer
import Gapfill.Json.Reader
import Gapfill.Proofs.Number.Digits

/-!
# Strings in JSON

Every character is written as a piece that reading takes off again
(`readString_escapedChar`): itself, a letter behind a backslash, or four digits in
base 16 for what is left of the control characters. So a text in quotes is read
back, whatever stands behind it (`readString_quoted`).
-/

namespace Gapfill.Json

/-- Four digits are one unit. -/
theorem readUnit_hexDigits {n : Nat} (h : n < 16 ^ 4) (s : List Char) :
    readUnit (hexDigits 4 n ++ s) = some (n, s) := by
  have hread := readHex_hexDigits 4 n
  rw [Nat.mod_eq_of_lt h] at hread
  obtain ⟨a, b, c, d, hdigits⟩ : ∃ a b c d, hexDigits 4 n = [a, b, c, d] :=
    ⟨_, _, _, _, rfl⟩
  rw [hdigits] at hread ⊢
  rw [List.cons_append, List.cons_append, List.cons_append, List.cons_append, readUnit, hread]
  rfl

/-- A unit below the halves is a character. -/
theorem readEscapedUnits_hexDigits {c : Char} (h : c < ' ') (s : List Char) :
    readEscapedUnits (hexDigits 4 c.toNat ++ s) = some (some c, s) := by
  have hlt : c.toNat < 32 := h
  have hhigh : isHighHalf c.toNat = false := by simp [isHighHalf]; omega
  have hlow : isLowHalf c.toNat = false := by simp [isLowHalf]; omega
  rw [readEscapedUnits, readUnit_hexDigits (by omega)]
  simp [hhigh, hlow]

theorem readString_plain {c : Char} (hcontrol : ¬ c < ' ') (hquote : c ≠ '"')
    (hbackslash : c ≠ '\\') (fuel : Nat) (s : List Char) :
    readString (fuel + 1) (c :: s)
      = (readString fuel s).map fun (text, rest) => (text.map (c :: ·), rest) := by
  rw [readString]
  · rw [if_neg (by simp [hcontrol, hbackslash])]
  · exact hquote
  · exact fun _ heq _ => hbackslash heq
  · exact fun _ _ heq _ => hbackslash heq

/-- A written character is read back. -/
theorem readString_escapedChar (fuel : Nat) (c : Char) (s : List Char) :
    readString (fuel + 1) (escapedChar c ++ s)
      = (readString fuel s).map fun (text, rest) => (text.map (c :: ·), rest) := by
  unfold escapedChar
  split
  case h_8 c hquote hbackslash _ _ _ _ _ =>
    split
    · rename_i hcontrol
      rw [List.cons_append, List.cons_append, readString, readEscapedUnits_hexDigits hcontrol]
      rfl
    · rename_i hcontrol
      exact readString_plain hcontrol hquote hbackslash fuel s
  all_goals rfl

theorem escapedChar_ne_nil (c : Char) : escapedChar c ≠ [] := by
  unfold escapedChar
  split
  case h_8 => split <;> exact List.cons_ne_nil _ _
  all_goals exact List.cons_ne_nil _ _

/-- A text in quotes is read back. -/
theorem readString_quoted : ∀ (text : List Char) {rest : List Char} {fuel : Nat},
    (text.flatMap escapedChar ++ '"' :: rest).length < fuel →
      readString fuel (text.flatMap escapedChar ++ '"' :: rest) = some (some text, rest)
  | _, _, 0, h => absurd h (Nat.not_lt_zero _)
  | [], _, fuel + 1, _ => rfl
  | c :: text, rest, fuel + 1, h => by
      have hpos := List.length_pos_iff.mpr (escapedChar_ne_nil c)
      rw [List.flatMap_cons, List.append_assoc] at h ⊢
      rw [List.length_append] at h
      rw [readString_escapedChar, readString_quoted text (by omega)]
      rfl

end Gapfill.Json
