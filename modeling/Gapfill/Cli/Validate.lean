import Gapfill.Cli.Output
import Gapfill.Question.Library

/-!
# Validating question files

The problems of each question are listed below its name. A file that cannot be read counts as a
problem if it is one of several, and is the failure of the command if it is the only one.
-/

namespace Gapfill.Cli

def problemLine (field : FormField) (d : Diagnostic) : String :=
  let place := match d.offset with
    | none => ""
    | some offset => " at offset " ++ natText offset
  "  [" ++ field.name ++ "] ERROR (" ++ d.problem.kind.name ++ ")" ++ place ++ ": " ++
    d.problem.message

def questionLines (question : AuthoredQuestion) : List String :=
  ("Question: " ++ question.name ++ " (" ++ question.flavor.name ++ ", " ++
    natText question.answers.length ++ " answers)") ::
    question.validate.map fun (field, d) => problemLine field d

/-- The lines for a file, and how many problems there are. -/
def fileReport (path : String) : Except QuestionError AuthoredQuestion → List String × Nat
  | .ok question => (questionLines question, question.validate.length)
  | .error e => ([path ++ ": ERROR: " ++ ": ".intercalate e.messages], 1)

def validateOutput : List (String × Except QuestionError AuthoredQuestion) → Output
  | [(_, .error e)] => .fail e.messages
  | files =>
    let reports := files.map fun (path, question) => fileReport path question
    let printed := Output.lines (reports.flatMap (·.1))
    let problems := reports.foldl (fun sum report => sum + report.2) 0
    .after printed <|
      if problems = 0 then .print "All questions valid.\n"
      else .fail [natText problems ++ " error(s) found"]

variable {m : Type → Type} [Monad m] [Host m]

def loadEach : List String → m (List (String × Except QuestionError AuthoredQuestion))
  | [] => return []
  | path :: rest => do
    let question ← AuthoredQuestion.load path
    return (path, question) :: (← loadEach rest)

/-- Validates a question file, or all those in a directory. -/
def validate (path : String) : m Output := do
  if ← Host.isDirectory path then
    match ← Question.filesIn path with
    | .error e => return .fail e.messages
    | .ok paths => return validateOutput (← loadEach paths)
  else return validateOutput (← loadEach [path])

end Gapfill.Cli
