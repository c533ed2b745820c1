import Gapfill.Pattern.Regex

/-!
# How much room an expression takes

The program for an expression has a state for each byte of a literal and
transitions for each range of a set, and a repetition copies what it repeats.
`Regex.size` counts bytes for these, to be compared with a limit.

This is a measure of the library's own. An engine may take fewer bytes, as it folds
alternatives into one set or shares states, and it may take more, for tables that are
not counted here; so the measure bounds the memory of an engine neither from below nor
from above.
-/

namespace Gapfill.Pattern

/-- The bytes of one state of the program. -/
private def stateSize : Nat := 32

/-- The bytes for one range of code points beyond ASCII. -/
private def rangeSize : Nat := 24

/-- How many ranges of code points have their category in the list. -/
private def categoryRanges (categories : List Unicode.Category) : Nat :=
  let step := fun (count, inside) (entry : Nat × Unicode.Category) =>
    if categories.contains entry.2 then (if inside then count else count + 1, true)
    else (count, false)
  (Unicode.categoryPages.flatten.foldl step ((0, false) : Nat × Bool)).1

/-- How many ranges of code points have the property. -/
private def propertyRanges : Unicode.Property → Nat
  | .oneOf categories => categoryRanges categories
  | .within ranges => ranges.length
  | .alphabetic => 761
  | .lowercase => 677
  | .uppercase => 660
  | .cased => 158
  | .caseIgnorable => 464
  | .whiteSpace => 10
  | .identifierStart => 684
  | .identifierPart => 799
  | .stableIdentifierStart => 691
  | .stableIdentifierPart => 806

/-- The bytes for one more transition out of a state. -/
private def transitionSize : Nat := 8

/-- The bytes counted for a set that has characters of all lengths. -/
private def wideSize : Nat := 8 * stateSize

/-- The bytes counted for a set of characters. Parts of a union share states. -/
def CharSet.size : CharSet → Nat
  | none => stateSize
  | range lo hi => stateSize * (lo.utf8Size + 3 * (hi.utf8Size - lo.utf8Size))
  | property p => stateSize + rangeSize * propertyRanges p
  | digit => stateSize + rangeSize * 70
  | space => stateSize + rangeSize * 10
  | word => stateSize + rangeSize * 770
  | compl a => max a.size wideSize
  | union a b => max a.size b.size + transitionSize
  | inter a b => min a.size b.size
  | diff a _ => a.size
  | symmDiff a b => max a.size b.size
  | caseClosure a => a.size
  | asciiCaseClosure a => a.size

/-- Whether an expression matches nothing but the empty text, whatever its assertions say. -/
def Regex.isBlind : Regex → Bool
  | empty => true
  | chars _ => false
  | look _ => true
  | cat a b => a.isBlind && b.isBlind
  | alt a b => a.isBlind && b.isBlind
  | rep r _ max => r.isBlind || max == some 0

/-- The bytes counted for the program of an expression. What matches nothing but the empty text is
not copied. -/
def Regex.size : Regex → Nat
  | empty => stateSize
  | chars set => set.size
  | look _ => stateSize
  | cat a b => a.size + b.size
  | alt a b => a.size + b.size
  | rep r min max =>
    if r.isBlind then r.size
    else
      match max with
      | none => r.size * Nat.max min 1 + stateSize
      | some most => r.size * most + stateSize * (most - min) + stateSize

end Gapfill.Pattern
