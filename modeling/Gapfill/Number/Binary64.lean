/-!
# Binary64 numbers

The non-negative numbers of the format, infinity included, are numbered in
increasing order by their rank: zero has rank 0, and infinity the last one. A
number is a sign and a rank, or no number at all. In units of the least
positive number every finite one is a natural number (`units`), and rounding
takes a quotient of such naturals to the rank of the nearest number, of two
equally near ones to the even rank. Infinity counts there as the power of two
that it stands in for, which is the rule for overflow.

Each operation computes the exact result and rounds it once.
-/

namespace Gapfill

namespace Binary64

/-- How many ranks share one exponent. -/
def binade : Nat := 0x10000000000000

def infinityRank : Nat := 2047 * binade

/-- How many units make one. -/
def unitsPerOne : Nat := Nat.pow 2 1074

/-- The number of this rank, in units of the least positive number. -/
def units (rank : Nat) : Nat :=
  if rank < binade then rank
  else (binade + rank % binade) * Nat.pow 2 (rank / binade - 1)

/-- The rank of the greatest number that is at most `n` units. -/
def floorRank (n : Nat) : Nat :=
  let shift := n.log2 - 52
  shift * binade + n / Nat.pow 2 shift

/-- Of a rank and the next one, the one to round to, when the number compares so to the middle
between the two: a tie goes to the even rank. -/
def roundAt (low : Nat) : Ordering → Nat
  | .lt => low
  | .gt => low + 1
  | .eq => if low % 2 = 0 then low else low + 1

theorem roundAt_le (low : Nat) (o : Ordering) : roundAt low o ≤ low + 1 := by
  cases o <;> simp only [roundAt] <;> (try split) <;> omega

/-- The rank of the number nearest to `num / den` units. -/
def nearestRank (num den : Nat) : Nat :=
  let low := min (floorRank (num / den)) (infinityRank - 1)
  roundAt low (compare (2 * num) ((units low + units (low + 1)) * den))

theorem nearestRank_le (num den : Nat) : nearestRank num den ≤ infinityRank :=
  Nat.le_trans (roundAt_le _ _)
    (Nat.le_trans (Nat.add_le_add_right (Nat.min_le_right _ _) 1)
      (Nat.le_of_eq (Nat.sub_add_cancel (Nat.le_of_lt_succ (by decide)))))

end Binary64

open Binary64 in
/-- A number of the binary64 format. All NaNs are one. -/
inductive Binary64 where
  | nan
  /-- The number of this rank, or its negation. -/
  | signed (negative : Bool) (rank : Nat) (rank_le : rank ≤ infinityRank)
deriving DecidableEq

namespace Binary64

def signedZero (negative : Bool) : Binary64 := signed negative 0 (Nat.zero_le _)

def infinity (negative : Bool) : Binary64 := signed negative infinityRank (Nat.le_refl _)

def zero : Binary64 := signedZero false

/-- The number nearest to `num / den` units. -/
def nearest (negative : Bool) (num den : Nat) : Binary64 :=
  signed negative (nearestRank num den) (nearestRank_le num den)

def ofNat (n : Nat) : Binary64 := nearest false (n * unitsPerOne) 1

instance (n : Nat) : OfNat Binary64 n := ⟨ofNat n⟩

/-! ## Bit patterns -/

/-- The first of the 64 bits, which is set for negative numbers. -/
def signBit : Nat := 0x8000000000000000

/-- The 64 bits as a natural number. -/
def toBits : Binary64 → Nat
  | nan => 0x7ff8000000000000
  | signed negative rank _ => if negative then signBit + rank else rank

/-! ## Kinds and order -/

def isFinite : Binary64 → Bool
  | nan => false
  | signed _ rank _ => rank < infinityRank

/-- A place in the order of numbers; both zeros have the same. -/
def key (negative : Bool) (rank : Nat) : Int := if negative then -rank else rank

/-- Whether `a` is less than `b`; false if one of them is no number. -/
def lt : Binary64 → Binary64 → Bool
  | signed s a _, signed t b _ => key s a < key t b
  | _, _ => false

/-- Whether `a` is at most `b`; false if one of them is no number. -/
def le : Binary64 → Binary64 → Bool
  | signed s a _, signed t b _ => key s a ≤ key t b
  | _, _ => false

/-- Whether the numbers are equal; the two zeros are, and NaN equals nothing. -/
def same : Binary64 → Binary64 → Bool
  | signed s a _, signed t b _ => key s a == key t b
  | _, _ => false

/-- The greater of two numbers, the first of equal ones; NaN counts as missing. -/
def max (a b : Binary64) : Binary64 :=
  match a with
  | nan => b
  | _ => if lt a b then b else a

/-- The number, or the bound that it is beyond. -/
def clamp (low high a : Binary64) : Binary64 :=
  let a := if lt a low then low else a
  if lt high a then high else a

/-! ## Arithmetic -/

/-- The number in units, with its sign; only for finite numbers. -/
def signedUnits (negative : Bool) (rank : Nat) : Int :=
  if negative then -(units rank) else units rank

/-- The sum, rounded. An exact sum of zero is negative only if both summands are. -/
def add : Binary64 → Binary64 → Binary64
  | signed s a ha, signed t b hb =>
    if a = infinityRank then
      if b = infinityRank ∧ s ≠ t then nan else signed s a ha
    else if b = infinityRank then signed t b hb
    else
      let sum := signedUnits s a + signedUnits t b
      if sum = 0 then signedZero (s && t) else nearest (sum < 0) sum.natAbs 1
  | _, _ => nan

def mul : Binary64 → Binary64 → Binary64
  | signed s a _, signed t b _ =>
    if a = infinityRank ∨ b = infinityRank then
      if a = 0 ∨ b = 0 then nan else infinity (s != t)
    else nearest (s != t) (units a * units b) unitsPerOne
  | _, _ => nan

def div : Binary64 → Binary64 → Binary64
  | signed s a _, signed t b _ =>
    if a = infinityRank then
      if b = infinityRank then nan else infinity (s != t)
    else if b = infinityRank then signedZero (s != t)
    else if b = 0 then
      if a = 0 then nan else infinity (s != t)
    else nearest (s != t) (units a * unitsPerOne) (units b)
  | _, _ => nan

instance : Add Binary64 := ⟨add⟩
instance : Mul Binary64 := ⟨mul⟩
instance : Div Binary64 := ⟨div⟩

def neg : Binary64 → Binary64
  | nan => nan
  | signed s a h => signed (!s) a h

/-- The sum of a list from left to right. It begins at negative zero, to which every number adds
unchanged. -/
def sum (numbers : List Binary64) : Binary64 := numbers.foldl (· + ·) (signedZero true)

/-- The number nearest to `m * 10 ^ e`. Where the power of ten alone decides, it is not computed. -/
def ofDecimal (negative : Bool) (m : Nat) (e : Int) : Binary64 :=
  if m = 0 then signedZero negative
  else if 0 ≤ e then
    if 1100 < m.log2 + 3 * e then infinity negative
    else nearest negative (m * Nat.pow 10 e.toNat * unitsPerOne) 1
  else if m.log2 + 3 * e < -1100 then signedZero negative
  else nearest negative (m * unitsPerOne) (Nat.pow 10 (-e).toNat)

end Binary64

end Gapfill
