/-!
# Digits

The digits of natural numbers, in base 10 and in other bases up to 16. Letters are digits from ten
on: written in lower case, and read in either case.
-/

namespace Gapfill

/-! ## Decimal digits -/

def decimalDigits (n : Nat) : List Char := Nat.toDigits 10 n

/-- The natural number that decimal digits denote. -/
def ofDecimalDigits (digits : List Char) : Nat :=
  digits.foldl (fun n c => n * 10 + (c.toNat - '0'.toNat)) 0

/-- The decimal digits of a natural number, as text. -/
def natText (n : Nat) : String := String.ofList (decimalDigits n)

/-! ## Digits of other bases -/

def isHexDigit (c : Char) : Bool :=
  c.isDigit || ('a' ≤ c && c ≤ 'f') || ('A' ≤ c && c ≤ 'F')

def digitValue (c : Char) : Nat :=
  if c.isDigit then c.toNat - '0'.toNat
  else if c.isLower then c.toNat - 'a'.toNat + 10
  else c.toNat - 'A'.toNat + 10

/-- The number that digits denote in a base. -/
def ofDigitsIn (base : Nat) (digits : List Char) : Nat :=
  digits.foldl (fun n c => n * base + digitValue c) 0

/-- The number that a text denotes in base 16, if it has nothing but digits. -/
def readHex (text : List Char) : Option Nat :=
  if text.all isHexDigit then some (ofDigitsIn 16 text) else none

/-- The digits of a number in base 16, from the last one backwards. -/
def hexDigitsBackwards : Nat → Nat → List Char
  | 0, _ => []
  | count + 1, n => (n % 16).digitChar :: hexDigitsBackwards count (n / 16)

/-- The last `count` digits of a number in base 16. -/
def hexDigits (count n : Nat) : List Char := (hexDigitsBackwards count n).reverse

end Gapfill
