import Gapfill.Batch
import Gapfill.Disk.Host
import Gapfill.Question.Basic

/-!
# Grade reports

A report tells how a batch of responses to one question was graded: each response for itself,
and all of them together. It is marked with an identifier and the time at which it was made.
-/

namespace Gapfill

/-- What a report says about the question. -/
structure QuestionSummary where
  id : String
  name : String
  flavor : String
  fieldCount : Nat
  maxPoints : Binary64
deriving DecidableEq

/-- How one response was graded. -/
structure Attempt where
  responseId : String
  summary : String
  /-- The share of what can be earned. -/
  fraction : Binary64
  /-- The share as a mark for the question. -/
  mark : Binary64
  classification : Classification
  outcomes : List Outcome
deriving DecidableEq

/-- How all responses were graded: how many in each class, and the mean of their shares. -/
structure Aggregate where
  right : Nat
  partly : Nat
  wrong : Nat
  meanFraction : Binary64
deriving DecidableEq

structure GradeReport where
  stamp : Stamp
  question : QuestionSummary
  attempts : List Attempt
  aggregate : Aggregate
deriving DecidableEq

namespace QuestionSummary

def ofQuestion (question : Question) : QuestionSummary :=
  ⟨question.id, question.name, question.flavor.name, question.fields.length, question.maxPoints⟩

end QuestionSummary

namespace Attempt

/-- Grades a response. -/
def ofSubmission (limits : Limits) (question : Question) (submission : Submission) : Attempt :=
  let grade := question.grade limits submission.response
  ⟨submission.id, question.summarize submission.response, grade.fraction,
    grade.fraction * question.maxPoints, grade.classification, grade.outcomes⟩

end Attempt

namespace Aggregate

/-- The mean of shares; of none at all it is zero. -/
def mean (fractions : List Binary64) : Binary64 :=
  if fractions.isEmpty then 0 else .sum fractions / .ofNat fractions.length

/-- Puts together what is known of each response. -/
def ofGrades (grades : List (Binary64 × Classification)) : Aggregate :=
  let count := fun c => grades.countP fun grade => grade.2 == c
  ⟨count .right, count .partly, count .wrong, mean (grades.map (·.1))⟩

def total (aggregate : Aggregate) : Nat :=
  (aggregate.right + aggregate.partly + aggregate.wrong) % 0x10000000000000000

end Aggregate

namespace GradeReport

/-- Grades a batch of responses. -/
def build (limits : Limits) (question : Question) (submissions : List Submission) (stamp : Stamp) :
    GradeReport :=
  let attempts := submissions.map (Attempt.ofSubmission limits question)
  ⟨stamp, .ofQuestion question, attempts,
    .ofGrades (attempts.map fun attempt => (attempt.fraction, attempt.classification))⟩

/-- The name of the file for a report: the question and the time. -/
def fileName (report : GradeReport) : String :=
  report.question.id ++ "-" ++ report.stamp.time.compactText ++ ".json"

def pathIn (report : GradeReport) (directory : String) : String :=
  Path.join directory report.fileName

end GradeReport

end Gapfill
