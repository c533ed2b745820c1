import Gapfill.Number.Binary64
import Gapfill.Number.Digits

/-!
# Decimal texts of binary64 numbers

A number is read by rounding the decimal that the text denotes. It is written with the fewest
digits that read back (`Binary64.shortest`), or with a fixed number of places
(`Binary64.fixedText`). `shortest` tests, from coarse to fine, the two decimals next to the
number on each decimal grid, and takes the nearer one of those that round to the number.
-/

namespace Gapfill

/-- Rounds `num / den` to a natural number, a half to the even neighbour. -/
def roundHalfEven (num den : Nat) : Nat :=
  let q := num / den
  match compare (2 * (num % den)) den with
  | .lt => q
  | .gt => q + 1
  | .eq => if q % 2 = 0 then q else q + 1

namespace Binary64

/-! ## The shortest decimal -/

/-- A decimal `digits * 10 ^ exponent`. -/
structure Decimal where
  digits : Nat
  exponent : Int

/-- Which decimal is taken when two are equally near. -/
inductive Tie where
  | up
  | toEven
deriving DecidableEq

/-- One step of a decimal grid is `num / den` units. -/
structure Grid where
  num : Nat
  den : Nat

/-- The grid of the multiples of a power of ten. -/
def gridOf (exponent : Int) : Grid :=
  if 0 ≤ exponent then ⟨Nat.pow 10 exponent.toNat * unitsPerOne, 1⟩
  else ⟨unitsPerOne, Nat.pow 10 (-exponent).toNat⟩

/-- Whether the `d`-th point of a grid rounds to this rank. -/
def Grid.roundsTo (g : Grid) (rank d : Nat) : Bool :=
  let here := units rank
  let low := (units (rank - 1) + here) * g.den
  let high := (here + units (rank + 1)) * g.den
  let point := 2 * d * g.num
  if rank % 2 = 0 then low ≤ point && point ≤ high else low < point && point < high

/-- The point of the grid that is nearest to the number, of those that round to it. -/
def Grid.nearest? (tie : Tie) (g : Grid) (rank : Nat) : Option Nat :=
  let target := units rank * g.den
  let low := target / g.num
  match g.roundsTo rank low && low != 0, g.roundsTo rank (low + 1) with
  | true, false => some low
  | false, true => some (low + 1)
  | false, false => none
  | true, true =>
    match compare (2 * target) ((2 * low + 1) * g.num) with
    | .lt => some low
    | .gt => some (low + 1)
    | .eq => if tie == .toEven && low % 2 = 0 then some low else some (low + 1)

/-- Tries grids from the exponent downwards. Where none of them has a point, the number is given
in full. -/
def shortestFrom (tie : Tie) (rank : Nat) : Nat → Int → Decimal
  | 0, _ => ⟨units rank * Nat.pow 5 1074, -1074⟩
  | fuel + 1, exponent =>
    match (gridOf exponent).nearest? tie rank with
    | some d => ⟨d, exponent⟩
    | none => shortestFrom tie rank fuel (exponent - 1)

/-- An exponent of ten at least as great as that of the number. -/
def exponentBound (rank : Nat) : Int :=
  ((units rank).log2 + 1 - 1074 : Int) * 30103 / 100000 + 1

/-- The decimal with the fewest digits that rounds to the finite number of this rank, and the
nearest of those. -/
def shortest (tie : Tie) (rank : Nat) : Decimal :=
  if rank = 0 then ⟨0, 0⟩ else shortestFrom tie rank 24 (exponentBound rank)

/-! ## Writing -/

/-- The digits of a decimal in positional notation: before and after the point. -/
def Decimal.positional (d : Decimal) : List Char × List Char :=
  let digits := decimalDigits d.digits
  if 0 ≤ d.exponent then
    (if d.digits = 0 then digits else digits ++ List.replicate d.exponent.toNat '0', [])
  else
    let places := (-d.exponent).toNat
    let padded := List.replicate (places + 1 - digits.length) '0' ++ digits
    (padded.take (padded.length - places), padded.drop (padded.length - places))

/-- The number in positional notation with the fewest digits that read back, and no point behind a
whole number. -/
def plainText : Binary64 → String
  | nan => "NaN"
  | signed negative rank _ =>
    let sign := if negative then "-" else ""
    if rank = infinityRank then sign ++ "inf"
    else
      let (whole, fraction) := (shortest .up rank).positional
      sign ++ String.ofList (if fraction.isEmpty then whole else whole ++ '.' :: fraction)

/-- The number rounded to so many places behind the point. -/
def fixedText (places : Nat) : Binary64 → String
  | nan => "NaN"
  | signed negative rank _ =>
    let sign := if negative then "-" else ""
    if rank = infinityRank then sign ++ "inf"
    else
      let scaled := roundHalfEven (units rank * Nat.pow 10 places) unitsPerOne
      let (whole, fraction) := Decimal.positional ⟨scaled, -places⟩
      sign ++ String.ofList (if places = 0 then whole else whole ++ '.' :: fraction)

/-! ## Reading -/

/-- The number that the digits before and behind a point denote, times a power of ten. -/
def ofDigits (negative : Bool) (whole fraction : List Char) (exponent : Int) : Binary64 :=
  ofDecimal negative (ofDecimalDigits (whole ++ fraction)) (exponent - fraction.length)

/-- Splits off a sign; the flag says whether it was a minus. -/
def readSign : List Char → Bool × List Char
  | '-' :: rest => (true, rest)
  | '+' :: rest => (false, rest)
  | s => (false, s)

/-- Reads the exponent at the end of a number, if there is one. -/
def readExponent : List Char → Option Int
  | [] => some 0
  | e :: rest =>
    if e == 'e' || e == 'E' then
      let (negative, digits) := readSign rest
      if digits.isEmpty || !digits.all Char.isDigit then none
      else some (if negative then -(ofDecimalDigits digits) else ofDecimalDigits digits)
    else none

/-- The number that a text denotes: a sign, digits, a point with digits, and an exponent, of which
only the first digits have to be there. -/
def ofText? (text : List Char) : Option Binary64 :=
  let (negative, text) := readSign text
  let whole := text.takeWhile Char.isDigit
  let (fraction, rest) :=
    match text.dropWhile Char.isDigit with
    | '.' :: rest => (rest.takeWhile Char.isDigit, rest.dropWhile Char.isDigit)
    | rest => ([], rest)
  if whole.isEmpty then none
  else (readExponent rest).map fun exponent => ofDigits negative whole fraction exponent

end Binary64

end Gapfill
