import Gapfill.Cli.Command
import Gapfill.Cli.Output
import Gapfill.Question.Library
import Gapfill.Report.Saved
import Gapfill.Settings
import Gapfill.Text.Table

/-!
# Grading responses

The responses come from a file or from the command line itself: `GAP=TEXT` for each gap, or the
lines of a whole answer. The report is printed as a table or as JSON, and saved if asked for.
-/

namespace Gapfill.Cli

/-! ## Responses on the command line -/

/-- Why answers on the command line make no response. -/
inductive AnswerError where
  | noGap (answer : String)
  | badGap (gap : String) (fault : CountFault)
deriving DecidableEq

def AnswerError.messages : AnswerError → List String
  | noGap answer => ["expected GAP=TEXT, got '" ++ answer ++ "'"]
  | badGap gap fault => ["gap must be a number, got '" ++ gap ++ "'", fault.message]

/-- Reads `GAP=TEXT`. The text may have further equals signs in it. -/
def readAnswer (answer : String) : Except AnswerError (Nat × String) :=
  let gap := answer.toList.takeWhile (· != '=')
  match answer.toList.dropWhile (· != '=') with
  | [] => .error (.noGap answer)
  | _ :: text =>
    match readCount (trim gap) with
    | .error fault => .error (.badGap (String.ofList gap) fault)
    | .ok gap => .ok (gap, String.ofList text)

def inlineResponse (flavor : Flavor) (answers : List String) : Except AnswerError Response :=
  match flavor with
  | .single => .ok (.single ("\n".intercalate answers))
  | .cloze => (answers.mapM readAnswer).map fun entries => .cloze (.ofList entries)

/-! ## Printing the report -/

/-- What a field earned, of how much. -/
def outcomeText (outcome : Outcome) : String :=
  let points := outcome.earned.plainText ++ "/" ++ outcome.most.plainText
  match outcome.gap with
  | some gap => natText gap ++ ": " ++ points
  | none => points

/-- A share in percent, with one place. -/
def percentText (fraction : Binary64) : String := (fraction * 100).fixedText 1 ++ "%"

def attemptRow (maxPoints : Binary64) (attempt : Attempt) : List String :=
  [attempt.responseId, percentText attempt.fraction,
    attempt.mark.fixedText 2 ++ "/" ++ maxPoints.plainText, attempt.classification.name,
    ", ".intercalate (attempt.outcomes.map outcomeText)]

def attemptTable (report : GradeReport) : Table where
  head := ["Response", "Fraction", "Mark", "Result", "Gaps"]
  rows := report.attempts.map (attemptRow report.question.maxPoints)

def aggregateLine (aggregate : Aggregate) : String :=
  natText aggregate.right ++ " right, " ++ natText aggregate.partly ++ " partial, " ++
    natText aggregate.wrong ++ " wrong, mean " ++ percentText aggregate.meanFraction

def reportText? (format : String) (report : GradeReport) : Option String :=
  match format with
  | "json" => some (report.text ++ "\n")
  | "text" =>
    some (Output.lines ["Question: " ++ report.question.name ++ " (" ++ report.question.id ++ ")",
      (attemptTable report).text, aggregateLine report.aggregate])
  | _ => none

/-! ## The command -/

section

variable {m : Type → Type} [Monad m] [Host m]

def submissions (flavor : Flavor) (answers : List String) :
    Option String → m (Except (List String) (List Submission))
  | some path => return (← Submission.loadBatch path).mapError ResponsesError.messages
  | none =>
    if answers.isEmpty then return .error ["nothing to grade: pass --answer or --responses"]
    else
      return ((inlineResponse flavor answers).mapError AnswerError.messages).map fun response =>
        [⟨"inline", response⟩]

def saveReport (report : GradeReport) (directory : String) : m Output := do
  let path := report.pathIn directory
  match ← Host.ensureAbove path with
  | .error fault => return .fail [fault.message]
  | .ok () =>
    match ← Host.write path report.text with
    | .error fault => return .fail ["failed to write report to " ++ path, fault.message]
    | .ok () => return ⟨"", ["Report saved to " ++ path], none⟩

/-- The directory to save a report in, if it is to be saved. -/
def Destination.directoryFor? (destination : Destination) (settings : Settings) : Option String :=
  destination.directory? <|> if destination.save then some settings.outputDirectory else none

def grade (path : String) (answers : List String) (responses? format? : Option String)
    (destination : Destination) (settings? : Option String) : m Output := do
  match ← Settings.load settings? with
  | .error e => return .fail e.messages
  | .ok settings =>
    match ← Question.load path with
    | .error e => return .fail e.messages
    | .ok question =>
      match ← submissions question.flavor answers responses? with
      | .error messages => return .fail messages
      | .ok submissions =>
        let report := GradeReport.build settings.limits question submissions (← Host.stamp)
        let format := format?.getD settings.format
        match reportText? format report with
        | none => return .fail ["unknown format: " ++ format ++ " (expected text or json)"]
        | some text =>
          match destination.directoryFor? settings with
          | none => return .print text
          | some directory => return .after text (← saveReport report directory)

end

end Gapfill.Cli
