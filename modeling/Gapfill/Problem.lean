import Gapfill.Number.Digits

/-!
# Problems in what an author wrote

Each problem is a cause; its kind, its wording and whether it ends the reading of a field
are functions of it.
-/

namespace Gapfill

/-- What sort of problem an author has to look for. -/
inductive ProblemKind where
  | syntaxError
  | range
  | unknownKey
  | keyOrder
  | unknownOption
  | gapReference
  | anchorUsage
deriving DecidableEq

def ProblemKind.name : ProblemKind → String
  | syntaxError => "syntax"
  | range => "range"
  | unknownKey => "unknown-key"
  | keyOrder => "key-order"
  | unknownOption => "unknown-option"
  | gapReference => "gap-reference"
  | anchorUsage => "anchor-usage"

/-- A problem in the text of an answer field or of a question. -/
inductive Problem where
  | illegalSyntax
  | illegalLine (line : String)
  | illegalCharacter (context actual expected : String)
  | invalidRegex (pattern reason : String)
  | illegalPercentage (value : String)
  | invalidPoints (value : String)
  | invalidSize (value : String)
  | unknownKey (key : String)
  | keyOrder (key expected : String)
  | unknownOption (option : Char)
  | unescapedAnchor
  | duplicatedGap (gap : Nat)
  | noGaps
  | noSuchGap (gap : Nat)
  | gapNotDefined (gap : Nat)
deriving DecidableEq

namespace Problem

def kind : Problem → ProblemKind
  | illegalSyntax | illegalLine _ | illegalCharacter .. | invalidRegex .. => .syntaxError
  | illegalPercentage _ | invalidPoints _ | invalidSize _ => .range
  | unknownKey _ => .unknownKey
  | keyOrder .. => .keyOrder
  | unknownOption _ => .unknownOption
  | unescapedAnchor => .anchorUsage
  | duplicatedGap _ | noGaps | noSuchGap _ | gapNotDefined _ => .gapReference

/-- Whether the rest of the field cannot be read after this problem. -/
def isFatal : Problem → Bool
  | illegalSyntax | illegalPercentage _ | unknownOption _ => true
  | _ => false

def message : Problem → String
  | illegalSyntax => "illegal syntax"
  | illegalLine line => "illegal syntax in line: " ++ line
  | illegalCharacter context actual expected =>
    "illegal character '" ++ actual ++ "' after '" ++ context ++ "', expected '" ++ expected ++ "'"
  | invalidRegex pattern reason => "invalid regular expression '" ++ pattern ++ "': " ++ reason
  | illegalPercentage value =>
    "illegal percentage " ++ value ++ ", must be between 0 and 100"
  | invalidPoints value => "points must be a positive number, got '" ++ value ++ "'"
  | invalidSize value => "size must be a positive integer, got '" ++ value ++ "'"
  | unknownKey key => "unknown key '" ++ key ++ "'"
  | keyOrder key expected =>
    "illegal key order for '" ++ key ++ "', keys must appear in this order: " ++ expected
  | unknownOption option => "illegal option '" ++ String.singleton option ++ "'"
  | unescapedAnchor =>
    "the anchors $ and ^ cannot be used, escape them as \\$ and \\^ to match them literally"
  | duplicatedGap gap => "the question text contains the gap [[" ++ natText gap ++ "]] twice"
  | noGaps => "the question text must contain at least one gap ([[1]])"
  | noSuchGap gap =>
    "the corresponding gap [[" ++ natText gap ++ "]] does not exist in the question text"
  | gapNotDefined gap => "gap " ++ natText gap ++ " is not defined"

end Problem

/-- A problem and where it was found: how many bytes of UTF-8 come before it in the text without
carriage returns. A pattern that is refused as a whole has no place. -/
structure Diagnostic where
  problem : Problem
  offset : Option Nat
deriving DecidableEq

/-- A problem at a place. -/
def Diagnostic.at (problem : Problem) (offset : Nat) : Diagnostic := ⟨problem, some offset⟩

end Gapfill
