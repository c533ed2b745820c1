import Gapfill.Json.Value
import Gapfill.Number.Count

/-!
# Numbers in JSON

A float is written with the fewest digits that denote it, in positional notation from a hundred
thousandth up to 16 digits before the point. It is read by way of its leading digits, as many as
make a number of 64 bits, and a power of ten: both are rounded, and so is their product or
quotient. The result is close to what the text denotes, but it need not be the nearest float.
-/

namespace Gapfill.Json

/-! ## Writing -/

/-- A decimal with an exponent, where the first digit stands before the point. -/
def scientific (digits : List Char) (exponent : Int) : List Char :=
  let mantissa := match digits with
    | d :: rest => if rest.isEmpty then [d] else d :: '.' :: rest
    | [] => []
  mantissa ++ 'e' :: (if exponent < 0 then '-' else '+') :: decimalDigits exponent.natAbs

/-- The digits of a decimal in the form that fits its size. -/
def decimalText (d : Binary64.Decimal) : List Char :=
  let digits := decimalDigits d.digits
  let point : Int := digits.length + d.exponent
  if -5 < point && point ≤ 16 then
    let (whole, places) := d.positional
    whole ++ '.' :: (if places.isEmpty then ['0'] else places)
  else scientific digits (point - 1)

def floatText : Binary64 → List Char
  | .nan => "null".toList
  | .signed negative rank _ =>
    if rank = Binary64.infinityRank then "null".toList
    else (if negative then ['-'] else []) ++ decimalText (Binary64.shortest .toEven rank)

/-! ## Reading -/

/-- Appends digits to a number, as long as it keeps within 64 bits. -/
def leadingDigits : Nat → List Char → Nat × List Char
  | n, [] => (n, [])
  | n, c :: rest =>
    let next := n * 10 + (c.toNat - '0'.toNat)
    if next ≤ maxCount then leadingDigits next rest else (n, c :: rest)

/-- The greatest power of ten that a float may be multiplied with at once. -/
def maxPower : Nat := 308

/-- A float times a power of ten; `none` if it becomes too great. -/
def scaled : Nat → Binary64 → Int → Option Binary64
  | 0, x, _ => some x
  | fuel + 1, x, exponent =>
    if exponent.natAbs ≤ maxPower then
      let power := Binary64.ofDecimal false 1 exponent.natAbs
      if 0 ≤ exponent then
        if (x * power).isFinite then some (x * power) else none
      else some (x / power)
    else if x.same 0 then some x
    else if 0 ≤ exponent then none
    else scaled fuel (x / Binary64.ofDecimal false 1 maxPower) (exponent + maxPower)

/-- A float from its leading digits and a power of ten. Three divisions take every number to zero.
-/
def ofParts (negative : Bool) (digits : Nat) (exponent : Int) : Json :=
  match scaled 4 (.ofNat digits) exponent with
  | none => broken
  | some x => float (if negative then x.neg else x)

/-- The greatest exponent that is taken as it is written. -/
def maxExponent : Nat := 0x7fffffff

/-- A float from its leading digits and a power of ten that is given in two parts, one of which is
written as digits. -/
def ofExponent (negative : Bool) (digits : Nat) (start : Int) (minus : Bool) (written : List Char) :
    Json :=
  let exponent := ofDecimalDigits written
  if maxExponent < exponent then
    if digits != 0 && !minus then broken else float (.signedZero negative)
  else ofParts negative digits (if minus then start - exponent else start + exponent)

/-- Reads the digits before the point: a zero, or digits that begin with another one. -/
def readWhole : List Char → Option (List Char × List Char)
  | '0' :: rest => if rest.head?.any Char.isDigit then none else some (['0'], rest)
  | s =>
    let digits := s.takeWhile Char.isDigit
    if digits.isEmpty then none else some (digits, s.dropWhile Char.isDigit)

/-- Reads a point with digits behind it, if it is there. -/
def readPlaces : List Char → Option (List Char × List Char)
  | '.' :: rest =>
    let digits := rest.takeWhile Char.isDigit
    if digits.isEmpty then none else some (digits, rest.dropWhile Char.isDigit)
  | s => some ([], s)

/-- Reads an exponent, if it is there: its sign and its digits. -/
def readPower (s : List Char) : Option (Option (Bool × List Char) × List Char) :=
  match s with
  | e :: rest =>
    if e == 'e' || e == 'E' then
      let (minus, rest) := Binary64.readSign rest
      let digits := rest.takeWhile Char.isDigit
      if digits.isEmpty then none else some (some (minus, digits), rest.dropWhile Char.isDigit)
    else some (none, s)
  | [] => some (none, [])

/-- The number with these digits before the point and no others. -/
def wholeNumber (negative : Bool) (whole : List Char) : Json :=
  let n := ofDecimalDigits whole
  if maxCount < n then
    let (digits, dropped) := leadingDigits 0 whole
    ofParts negative digits dropped.length
  else if !negative then integer n
  else if n = 0 || 0x8000000000000000 < n then float (Binary64.ofNat n).neg
  else integer (-n)

def readNumber (s : List Char) : Option (Json × List Char) := do
  let (negative, s) := match s with
    | '-' :: rest => (true, rest)
    | s => (false, s)
  let (whole, s) ← readWhole s
  let (places, s) ← readPlaces s
  let (power, s) ← readPower s
  let (digits, dropped) := leadingDigits 0 whole
  let (digits, ignored) := leadingDigits digits places
  let start : Int := dropped.length - (places.length - ignored.length : Nat)
  match power with
  | some (minus, written) => return (ofExponent negative digits start minus written, s)
  | none =>
    if places.isEmpty then return (wholeNumber negative whole, s)
    else return (ofParts negative digits start, s)

end Gapfill.Json
