import Gapfill.Authored.FieldText
import Gapfill.Validation.Gaps

/-!
# Validation reports

While a question is being edited, each input of the form shows at most one problem. A report
holds the last problem recorded for each input: the question text, and the answers by index.

`ValidationReport.ofQuestion` checks a whole question. In a cloze question the text has to mark
each gap once, and exactly those gaps that have an answer.
-/

namespace Gapfill

/-- An input of the form. -/
inductive FormField where
  | questionText
  /-- The answer at this index; it fills the gap with the next number. -/
  | answer (index : Nat)
deriving DecidableEq

namespace FormField

def name : FormField → String
  | questionText => "questiontext"
  | answer index => "answer[" ++ natText index ++ "]"

/-- Whether one input comes before another: the question text first, then the answers. -/
def before : FormField → FormField → Bool
  | questionText, questionText => false
  | questionText, answer _ => true
  | answer _, questionText => false
  | answer i, answer j => i < j

end FormField

structure FieldError where
  field : FormField
  diagnostic : Diagnostic
deriving DecidableEq

/-- The problems of a form, at most one for each input, in the order of the inputs. -/
abbrev ValidationReport := List (FormField × Diagnostic)

namespace ValidationReport

/-- Records a problem for an input, in place of an earlier one. -/
def record (field : FormField) (diagnostic : Diagnostic) : ValidationReport → ValidationReport
  | [] => [(field, diagnostic)]
  | (f, d) :: rest =>
    if field.before f then (field, diagnostic) :: (f, d) :: rest
    else if field = f then (field, diagnostic) :: rest
    else (f, d) :: record field diagnostic rest

def recordProblem (field : FormField) (problem : Problem) (report : ValidationReport) :
    ValidationReport :=
  report.record field ⟨problem, none⟩

def get? (report : ValidationReport) (field : FormField) : Option Diagnostic := report.lookup field

/-- The problems in the order of the inputs. -/
def toErrors (report : ValidationReport) : List FieldError :=
  report.map fun (field, diagnostic) => ⟨field, diagnostic⟩

def isValid (report : ValidationReport) : Bool := report.isEmpty

/-- Records the diagnostics of a field's text one after the other, so that the last one stays. -/
def checkField (flavor : Flavor) (text : String) (field : FormField) (report : ValidationReport) :
    ValidationReport :=
  match Field.parse flavor text with
  | .ok _ => report
  | .error diagnostics => diagnostics.foldl (fun report d => report.record field d) report

/-- Records each gap that is marked again, after those in `seen`. -/
def checkRepeats (seen : List Nat) : List Nat → ValidationReport → ValidationReport
  | [], report => report
  | gap :: rest, report =>
    checkRepeats (gap :: seen) rest
      (if seen.contains gap then report.recordProblem .questionText (.duplicatedGap gap)
        else report)

/-- Checks the gaps that a question text marks by themselves. -/
def checkGaps (gaps : List Nat) (report : ValidationReport) : ValidationReport :=
  let report := checkRepeats [] gaps report
  if gaps.isEmpty then report.recordProblem .questionText .noGaps else report

/-- The report on a question text alone. -/
def ofQuestionText (text : String) : ValidationReport := checkGaps (gapReferences text) []

/-- Checks the answers of a cloze question, the first of which has the index `index`, against the
gaps that its text marks. An empty answer is no answer. -/
def checkClozeAnswers (gaps : List Nat) : Nat → List String → ValidationReport → ValidationReport
  | _, [], report => report
  | index, text :: rest, report =>
    checkClozeAnswers gaps (index + 1) rest <|
      if text.isEmpty then report
      else if gaps.contains (index + 1) then checkField .cloze text (.answer index) report
      else report.recordProblem (.answer index) (.noSuchGap (index + 1))

/-- Checks the alternatives of a question with one answer. -/
def checkSingleAnswers : Nat → List String → ValidationReport → ValidationReport
  | _, [], report => report
  | index, text :: rest, report =>
    checkSingleAnswers (index + 1) rest <|
      if text.isEmpty then report else checkField .single text (.answer index) report

def isAnswered (answers : List String) (gap : Nat) : Bool :=
  gap != 0 && (answers[gap - 1]?).any fun text => !text.isEmpty

/-- The gaps without an answer, in increasing order and each once. -/
def openGaps (gaps : List Nat) (answers : List String) : List Nat :=
  ((gaps.filter fun gap => !isAnswered answers gap).eraseDups).mergeSort (· ≤ ·)

def ofQuestion (flavor : Flavor) (text : String) (answers : List String) : ValidationReport :=
  match flavor with
  | .single => checkSingleAnswers 0 answers []
  | .cloze =>
    let gaps := gapReferences text
    (openGaps gaps answers).foldl
      (fun report gap => report.recordProblem .questionText (.gapNotDefined gap))
      (checkClozeAnswers gaps 0 answers (checkGaps gaps []))

end ValidationReport

end Gapfill
