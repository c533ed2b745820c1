import Gapfill.Grade

/-!
# Questions

A question that is ready for grading, and what can be said about a response to it. The gaps
of a question are those of its fields, and a response is asked only for these.
-/

namespace Gapfill

structure Question where
  id : String
  name : String
  flavor : Flavor
  text : String
  fields : List Field
deriving DecidableEq

namespace Question

/-- The mark for a right answer: the points of all gaps together, or one for a whole answer. -/
def maxPoints (question : Question) : Binary64 :=
  match question.flavor with
  | .cloze => .sum (question.fields.map (·.points))
  | .single => 1

def inputName (gap : Nat) : String := "gap" ++ natText gap

/-- The numbers of the gaps, in the order of the fields. -/
def gaps (question : Question) : List Nat :=
  question.fields.mapIdx fun index field => field.gapAt index

def grade (limits : Limits) (question : Question) (response : Response) : Grade :=
  Grade.ofResponse limits question.fields response

/-- Whether there is something for a gap. -/
def isFilled (answers : GapAnswers) (gap : Nat) : Bool :=
  (answers.get? gap).any fun text => !text.isEmpty

def isComplete (question : Question) : Response → Bool
  | .cloze answers => question.gaps.all (isFilled answers)
  | .single answer => !answer.isEmpty

/-- Whether some gap is filled. -/
def isGradable (question : Question) : Response → Bool
  | .cloze answers => question.gaps.any (isFilled answers)
  | .single answer => !answer.isEmpty

/-- What a learner is told if the response cannot be graded. -/
def complaint? (question : Question) (response : Response) : Option String :=
  if question.isGradable response then none else some "please enter an answer"

/-- Whether two responses say the same for every gap of the question. -/
def sameResponse (question : Question) : Response → Response → Bool
  | .cloze a, .cloze b => question.gaps.all fun gap => a.get? gap == b.get? gap
  | .single a, .single b => a == b
  | _, _ => false

/-- The line of a summary for one gap. -/
def summaryLine (answers : GapAnswers) (gap : Nat) : String :=
  "Gap " ++ natText gap ++ ": " ++ (answers.get? gap).getD "none" ++ "\n"

/-- What a response says: a line for each gap, or the whole answer. -/
def summarize (question : Question) : Response → String
  | .cloze answers => String.join (question.gaps.map (summaryLine answers))
  | .single answer => answer

/-- What a guess is worth on average: nothing, since answers are free texts. -/
def guessScore : Binary64 := 0

/-- The right answer to show to a learner: none, since a pattern has no text of its own. -/
def modelResponse? (_question : Question) : Option Response := none

end Question

end Gapfill
