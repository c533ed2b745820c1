import Gapfill.Answer
import Gapfill.Response

/-!
# Grading

A field earns what its best sub-pattern is worth. A cloze response is worth the points
of all gaps as a share of the most that can be earned; a whole answer is worth as much as its
best alternative. All arithmetic is that of binary64, in the order written here.
-/

namespace Gapfill

/-- How good a field or a response is. -/
inductive Classification where
  | wrong
  | partly
  | right
deriving DecidableEq

namespace Classification

def name : Classification → String
  | wrong => "wrong"
  | partly => "partial"
  | right => "right"

/-- The class of a share: nothing is wrong, the whole is right, and what lies between is partial. -/
def ofFraction (fraction : Binary64) : Classification :=
  if fraction.le 0 then wrong else if Binary64.le 1 fraction then right else partly

/-- The class of earned points against the most that can be earned. -/
def ofPoints (earned most : Binary64) : Classification :=
  if earned.le 0 then wrong else if earned.same most then right else partly

end Classification

structure Outcome where
  gap : Option Nat
  earned : Binary64
  most : Binary64
  /-- The index of the sub-pattern that earned it. -/
  subPattern : Option Nat
  classification : Classification
deriving DecidableEq

/-- What a response is worth. -/
structure Grade where
  /-- The share of what can be earned. -/
  fraction : Binary64
  classification : Classification
  outcomes : List Outcome
deriving DecidableEq

/-- A sub-pattern that an answer matches, and what that earns. -/
structure BestMatch where
  earned : Binary64
  subPattern : Nat
  /-- What the answer is worth against the sub-pattern, before weighting. -/
  value : Binary64
deriving DecidableEq

namespace Field

/-- What an answer is worth against one sub-pattern of the field. -/
def evaluate (limits : Limits) (field : Field) (index : Nat) (answer : String) : MatchResult :=
  match field.subPatterns[index]? with
  | none => .none
  | some sub => (Compiled.ofStored sub field.separator limits).evaluate limits answer.toList

/-- The better of two matches, the first of equal ones. -/
def better (best : Option BestMatch) (next : BestMatch) : BestMatch :=
  match best with
  | none => next
  | some best => if best.earned.lt next.earned then next else best

/-- Goes through sub-patterns, of which the first has the index `index`, and keeps the best match.
-/
def bestFrom (limits : Limits) (field : Field) (answer : String) :
    Nat → Option BestMatch → List SubPattern → Option BestMatch
  | _, best, [] => best
  | index, best, sub :: rest =>
    let result := (Compiled.ofStored sub field.separator limits).evaluate limits answer.toList
    let best :=
      if result.matched then
        some (better best ⟨field.points * result.value * sub.weightFraction, index, result.value⟩)
      else best
    bestFrom limits field answer (index + 1) best rest

/-- The sub-pattern that earns the most for an answer, the first of equal ones. -/
def best? (limits : Limits) (field : Field) (answer : String) : Option BestMatch :=
  bestFrom limits field answer 0 none field.subPatterns

/-- What an answer earns; no answer earns nothing. -/
def grade (limits : Limits) (field : Field) (answer : Option String) : Outcome :=
  let best := answer.bind (field.best? limits)
  let earned := match best with
    | some b => b.earned
    | none => 0
  ⟨field.gap, earned, field.points, best.map (·.subPattern), .ofPoints earned field.points⟩

def gapAt (field : Field) (index : Nat) : Nat := field.gap.getD (index + 1)

/-- The outcome of an answer as that of an alternative: what it earns is a share of the mark. -/
def gradeAlternative (limits : Limits) (field : Field) (answer : String) : Outcome :=
  let best := field.best? limits answer
  let earned := match best with
    | some b => if Binary64.lt 0 field.points then b.earned / field.points * field.fraction else 0
    | none => 0
  ⟨field.gap, earned, field.fraction, best.map (·.subPattern), .ofPoints earned field.fraction⟩

end Field

namespace Grade

def clozeOutcomes (limits : Limits) (answers : GapAnswers) (fields : List Field) : List Outcome :=
  fields.mapIdx fun index field =>
    let gap := field.gapAt index
    { field.grade limits (answers.get? gap) with gap := some gap }

/-- Grades the texts of the gaps: what they earn together, as a share of what can be earned. -/
def ofCloze (limits : Limits) (fields : List Field) (answers : GapAnswers) : Grade :=
  let outcomes := clozeOutcomes limits answers fields
  let most := Binary64.sum (fields.map (·.points))
  let earned := Binary64.sum (outcomes.map (·.earned))
  let fraction := if Binary64.lt 0 most then Binary64.clamp 0 1 (earned / most) else 0
  ⟨fraction, .ofFraction fraction, outcomes⟩

/-- Grades a whole answer: the share of its best alternative. -/
def ofSingle (limits : Limits) (fields : List Field) (answer : String) : Grade :=
  let outcomes := fields.map fun field => field.gradeAlternative limits answer
  let fraction := Binary64.clamp 0 1 ((outcomes.map (·.earned)).foldl Binary64.max 0)
  ⟨fraction, .ofFraction fraction, outcomes⟩

/-- Grades a response against the fields it answers. -/
def ofResponse (limits : Limits) (fields : List Field) : Response → Grade
  | .cloze answers => ofCloze limits fields answers
  | .single answer => ofSingle limits fields answer

end Grade

end Gapfill
