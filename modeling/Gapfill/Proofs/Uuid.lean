import Gapfill.Proofs.Number.Digits
import Gapfill.Uuid

/-!
# Identifiers are read back

The five groups that an identifier is written in are the digits of one number, and
hyphens stand where reading looks for them (`ofText?_text`).
-/

namespace Gapfill

namespace Uuid

/-- The groups, one after the other, are all digits of the number. -/
theorem groups_append (n : Nat) :
    hexDigits 8 (n >>> 96) ++ hexDigits 4 (n >>> 80) ++ hexDigits 4 (n >>> 64)
      ++ hexDigits 4 (n >>> 48) ++ hexDigits 12 n = hexDigits 32 n := by
  have hshift : ∀ j k m : Nat,
      hexDigits j (m >>> (4 * k)) ++ hexDigits k m = hexDigits (j + k) m := by
    intro j k m
    rw [Nat.shiftRight_eq_div_pow, Nat.pow_mul]
    exact hexDigits_append j k m
  have hsplit : ∀ a b : Nat, n >>> (a + b) = (n >>> b) >>> a := by
    intro a b
    rw [Nat.add_comm, Nat.shiftRight_add]
  rw [hsplit 16 80, hshift 8 4, hsplit 16 64, hshift 12 4, hsplit 16 48, hshift 16 4]
  exact hshift 20 12 n

theorem ofDigits?_hexDigits (id : Uuid) : ofDigits? (hexDigits 32 id.bits.toNat) = some id := by
  have hmod : id.bits.toNat % 16 ^ 32 = id.bits.toNat := Nat.mod_eq_of_lt id.bits.isLt
  rw [ofDigits?, if_pos (length_hexDigits 32 _), readHex_hexDigits, hmod, Option.map_some,
    BitVec.ofNat_toNat, BitVec.setWidth_eq]

/-- Groups of digits with hyphens between them. -/
theorem ofGroups?_intercalate {a b c d e : List Char} (ha : a.length = 8) (hb : b.length = 4)
    (hc : c.length = 4) (hd : d.length = 4) (he : e.length = 12) :
    ofGroups? (['-'].intercalate [a, b, c, d, e]) = ofDigits? (a ++ b ++ c ++ d ++ e) := by
  have htext : ['-'].intercalate [a, b, c, d, e]
      = a ++ '-' :: (b ++ '-' :: (c ++ '-' :: (d ++ '-' :: e))) := by
    simp [List.intercalate]
  have hfirst : ∀ s, (a ++ '-' :: s).drop 8 = '-' :: s := fun s => List.drop_left' ha
  have hnext : ∀ {group : List Char}, group.length = 4 → ∀ s,
      ('-' :: (group ++ s)).drop 5 = s := fun hgroup s => List.drop_left' (by simp [hgroup])
  have htake : ∀ {group : List Char}, group.length = 4 → ∀ s,
      (('-' :: (group ++ s)).take 5).drop 1 = group := by
    intro group hgroup s
    rw [← List.cons_append, List.take_left' (by simp [hgroup])]
    rfl
  have h8 := hfirst (b ++ '-' :: (c ++ '-' :: (d ++ '-' :: e)))
  have h13 := hnext hb ('-' :: (c ++ '-' :: (d ++ '-' :: e)))
  have h18 := hnext hc ('-' :: (d ++ '-' :: e))
  have h23 := hnext hd ('-' :: e)
  rw [← h8, List.drop_drop] at h13
  rw [← h13, List.drop_drop] at h18
  rw [← h18, List.drop_drop] at h23
  rw [htext, ofGroups?, h8, h13, h18, h23, if_pos (by simp [ha, hb, hc, hd, he]), htake hb,
    htake hc, htake hd, List.take_left' ha]
  rfl

/-- An identifier is read back. -/
theorem ofText?_text (id : Uuid) : ofText? id.text = some id := by
  have hgroups := ofGroups?_intercalate (length_hexDigits 8 (id.bits.toNat >>> 96))
    (length_hexDigits 4 (id.bits.toNat >>> 80)) (length_hexDigits 4 (id.bits.toNat >>> 64))
    (length_hexDigits 4 (id.bits.toNat >>> 48)) (length_hexDigits 12 id.bits.toNat)
  have hlength : id.text.toList.length = 36 := by
    simp [text, List.intercalate, length_hexDigits]
  rw [groups_append, ofDigits?_hexDigits] at hgroups
  rw [ofText?, hlength, if_neg (by decide), if_neg (by decide), if_neg (by decide), ← hgroups, text,
    String.toList_ofList]

end Uuid

end Gapfill
