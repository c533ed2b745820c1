import Gapfill.Number.Digits

/-!
# Gap markers

A question text marks the place of gap `n` by `[[n]]`. A number that does not fit into 64 bits marks
nothing.
-/

namespace Gapfill

def maxGap : Nat := 0xffffffffffffffff

/-- The number of the marker that begins right here, as its digits. -/
def marker? : List Char → Option (List Char)
  | '[' :: '[' :: rest =>
    let digits := rest.takeWhile Char.isDigit
    match rest.dropWhile Char.isDigit with
    | ']' :: ']' :: _ => if digits.isEmpty then none else some digits
    | _ => none
  | _ => none

/-- The digits of all markers in a text, from left to right. -/
def markers : List Char → List (List Char)
  | [] => []
  | c :: rest =>
    match marker? (c :: rest) with
    | some digits => digits :: markers rest
    | none => markers rest

/-- The numbers of the gaps that a question text marks, in the order of the markers. -/
def gapReferences (text : String) : List Nat :=
  ((markers text.toList).map ofDecimalDigits).filter (· ≤ maxGap)

end Gapfill
