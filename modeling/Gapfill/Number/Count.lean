import Gapfill.Number.Digits

/-!
# Counts

A count is a natural number of at most 64 bits. It is read from decimal digits, before
which a plus may stand. A text is judged from left to right, so that of two faults the first one
is told.
-/

namespace Gapfill

/-- Why a text denotes no count. -/
inductive CountFault where
  | empty
  | invalidDigit
  | tooLarge
deriving DecidableEq

def CountFault.message : CountFault → String
  | empty => "cannot parse integer from empty string"
  | invalidDigit => "invalid digit found in string"
  | tooLarge => "number too large to fit in target type"

def maxCount : Nat := 0xffffffffffffffff

/-- Reads the digits that follow those that denote `n`. -/
def readCountFrom : Nat → List Char → Except CountFault Nat
  | n, [] => .ok n
  | n, c :: rest =>
    if c.isDigit then
      let next := n * 10 + (c.toNat - '0'.toNat)
      if next ≤ maxCount then readCountFrom next rest else .error .tooLarge
    else .error .invalidDigit

def readCount : List Char → Except CountFault Nat
  | [] => .error .empty
  | ['+'] => .error .invalidDigit
  | '+' :: digits => readCountFrom 0 digits
  | digits => readCountFrom 0 digits

end Gapfill
