import Gapfill.Compiled
import Gapfill.Text.Blank
import Gapfill.Text.Split

/-!
# Matching an answer

A pattern for the whole answer is worth everything or nothing. With lines in any order, each
expression takes the first free line that it matches, in the order of the expressions, and the
value is the score of that assignment (`anyOrderScore`) as a share of the number of expressions.
-/

namespace Gapfill

/-- The answer as it is matched: without carriage returns and, if asked for, without blanks at its
ends. -/
def normalize (options : Options) (answer : List Char) : List Char :=
  let kept := answer.filter (· != '\r')
  if options.trimEnds then trim kept else kept

/-- Which line each expression took, and what that is worth. -/
structure Assignment where
  lineOf : List (Option Nat)
  answerLines : Nat
  /-- How many expressions found a line. -/
  matched : Nat
  /-- How many lines were left over. -/
  wrongLines : Nat
  score : Nat
deriving DecidableEq

/-- The score of an assignment. A missing line costs one point, and so does a surplus one; a line
that matches nothing costs one unless it is already counted as surplus. -/
def anyOrderScore (maxScore answerLines wrongLines : Nat) : Nat :=
  let delta : Int := maxScore - answerLines
  let surplus := max (-delta) 0
  (max ((maxScore : Int) - delta.natAbs - max ((wrongLines : Int) - surplus) 0) 0).toNat

/-- The score as computed in words of 64 bits, with a sign for the differences. As long as no
argument has the bit of the sign, this is `anyOrderScore`; the lengths of lists are far below
that. -/
def anyOrderScore64 (maxScore answerLines wrongLines : UInt64) : UInt64 :=
  let most := maxScore.toInt64
  let delta := most - answerLines.toInt64
  let surplus := max (-delta) 0
  (max (most - delta.abs - max (wrongLines.toInt64 - surplus) 0) 0).toUInt64

/-- The index of the first line that is free and satisfies `accepts`. -/
def firstFree (accepts : List Char → Bool) (index : Nat) : List (Bool × List Char) → Option Nat
  | [] => none
  | (taken, line) :: rest =>
    if !taken && accepts line then some index else firstFree accepts (index + 1) rest

/-- Lets each expression in turn take the first free line that it accepts; a line comes with
whether it is taken. The results are the lines taken and the lines afterwards. -/
def assignLines : List (List Char → Bool) → List (Bool × List Char) →
    List (Option Nat) × List (Bool × List Char)
  | [], lines => ([], lines)
  | accepts :: rest, lines =>
    match firstFree accepts 0 lines with
    | none =>
      let (found, lines) := assignLines rest lines
      (none :: found, lines)
    | some i =>
      let (found, lines) := assignLines rest (lines.modify i fun line => (true, line.2))
      (some i :: found, lines)

/-- The assignment of the lines of an answer to the expressions, which are given by what they
accept. -/
def assign (expressions : List (List Char → Bool)) (lines : List (List Char)) : Assignment :=
  let (lineOf, after) := assignLines expressions (lines.map fun line => (false, line))
  let wrongLines := after.countP fun line => !line.1
  ⟨lineOf, lines.length, lineOf.countP Option.isSome, wrongLines,
    anyOrderScore expressions.length lines.length wrongLines⟩

/-- What an answer is worth against a pattern, between zero and one. -/
structure MatchResult where
  value : Binary64
  assignment : Option Assignment
deriving DecidableEq

namespace MatchResult

/-- The answer does not match. -/
def none : MatchResult := ⟨0, .none⟩

def matched (r : MatchResult) : Bool := Binary64.lt 0 r.value

end MatchResult

def answerLines (separator : String) (options : Options) (answer : List Char) : List (List Char) :=
  (splitAt separator.toList answer).map fun line => if options.trimEnds then trim line else line

/-- Whether an answer is matched at all: it keeps within the limit, and something remains of it. The
result is the answer as it is matched. -/
def admitAnswer? (options : Options) (limits : Limits) (answer : List Char) : Option (List Char) :=
  if limits.answerLength < answer.length then none
  else
    let normalized := normalize options answer
    if normalized.isEmpty then none else some normalized

/-- What an answer is worth against a compiled pattern. -/
def Compiled.evaluate (limits : Limits) (answer : List Char) : Compiled → MatchResult
  | .unusable _ => .none
  | .ordered matcher options =>
    match admitAnswer? options limits answer with
    | none => .none
    | some normalized => ⟨if matcher.accepts normalized then 1 else 0, none⟩
  | .anyOrder matchers separator options =>
    match admitAnswer? options limits answer with
    | none => .none
    | some normalized =>
      let assignment :=
        assign (matchers.map Matcher.accepts) (answerLines separator options normalized)
      ⟨.ofNat assignment.score / .ofNat (max matchers.length 1), some assignment⟩

end Gapfill
