import Gapfill.Flavor
import Gapfill.Number.Decimal
import Gapfill.Options

/-!
# Answer fields

An answer field is one scored unit: a gap of a cloze question, or one alternative of a question of
the single flavor. It holds the patterns that an answer may match, each worth a share of the points.
-/

namespace Gapfill

/-- One or more expressions with the options they share and the share of the points they are
worth. -/
structure SubPattern where
  /-- The expressions as the author wrote them. -/
  regexes : List String
  /-- The share of the points in percent. -/
  weight : Nat
  /-- The option letters as the author wrote them. -/
  rawOptions : String
  options : Options
deriving DecidableEq

/-- The share of the points as a number between zero and one. -/
def SubPattern.weightFraction (sub : SubPattern) : Binary64 := .ofNat sub.weight / 100

/-- A gap or an alternative, with everything its answer is scored by. -/
structure Field where
  /-- The number of the gap, if the field knows it. -/
  gap : Option Nat
  subPatterns : List SubPattern
  /-- What a right answer earns. -/
  points : Binary64
  /-- How wide the input box is. -/
  size : Nat
  comment : Option String
  feedback : Option String
  /-- What stands between the lines of an answer. -/
  separator : String
  /-- The options before any letters. -/
  options : Options
  /-- The share of the mark that an alternative is worth. -/
  fraction : Binary64
deriving DecidableEq

/-- A field without patterns: one point, a box of five characters, lines that end with a
newline. -/
def Field.empty : Field where
  gap := none
  subPatterns := []
  points := 1
  size := 5
  comment := none
  feedback := none
  separator := "\n"
  options := .default
  fraction := 1

end Gapfill
