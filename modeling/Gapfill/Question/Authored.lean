import Gapfill.Question.Basic
import Gapfill.Toml.Document
import Gapfill.Validation.Report

/-!
# Questions as their authors write them

A question file is a TOML document with a table `question` and an array `answers`. Reading it
looks at the patterns as texts only. `AuthoredQuestion.build` validates them and makes the
fields: answer number `i` of a cloze question is for gap `i`, and an answer of the single flavor
is an alternative with a share of the mark. Empty patterns make no field.
-/

namespace Gapfill

/-- The text of an answer field, with the share of the mark that counts for an alternative. -/
structure AuthoredAnswer where
  pattern : String
  fraction : Binary64
deriving DecidableEq

/-- A question before its patterns are read. -/
structure AuthoredQuestion where
  id : String
  name : String
  flavor : Flavor
  text : String
  answers : List AuthoredAnswer
deriving DecidableEq

/-! ## Reading a question file -/

/-- Why a document is no question. -/
inductive AuthoringError where
  /-- It is no TOML document, or not one of this shape. -/
  | malformed (source : String)
  | unknownFlavor (message : String)
deriving DecidableEq

namespace AuthoringError

def message : AuthoringError → String
  | malformed source => "failed to parse TOML: " ++ source
  | unknownFlavor message => message

/-- The messages from the outermost to the first cause. -/
def messages (e : AuthoringError) : List String :=
  match e with
  | malformed _ => [e.message, "TOML parse error"]
  | unknownFlavor _ => [e.message]

end AuthoringError

namespace AuthoredQuestion

/-- Reads an answer; its share of the mark is the whole unless it says otherwise. -/
def answerOf? (value : Toml.Value) : Option AuthoredAnswer := do
  let record ← value.record? ["pattern", "fraction"]
  return ⟨← record.required? "pattern" Toml.Value.string?,
    ← record.optional? "fraction" Toml.Value.float? 1⟩

/-- The head of a question file, where the flavor is a name yet. -/
structure Head where
  id : String
  name : String
  flavor : String
  text : String

def headOf? (value : Toml.Value) : Option Head := do
  let record ← value.record? ["id", "name", "flavor", "text"]
  return ⟨← record.required? "id" Toml.Value.string?, ← record.required? "name" Toml.Value.string?,
    ← record.optional? "flavor" Toml.Value.string? "cloze",
    ← record.optional? "text" Toml.Value.string? ""⟩

/-- The parts of a question file. -/
def partsOf? (document : String) : Option (Head × List AuthoredAnswer) := do
  let root ← Toml.parse document
  return (← root.required? "question" headOf?,
    ← root.optional? "answers" (Toml.Value.listOf? answerOf?) [])

/-- Reads a question file; `source` is its name in messages. -/
def ofToml (source document : String) : Except AuthoringError AuthoredQuestion :=
  match partsOf? document with
  | none => .error (.malformed source)
  | some (head, answers) =>
    match Flavor.ofName head.flavor with
    | .error message => .error (.unknownFlavor message)
    | .ok flavor => .ok ⟨head.id, head.name, flavor, head.text, answers⟩

/-! ## Making the fields -/

/-- The report on the question as it is written. -/
def validate (question : AuthoredQuestion) : ValidationReport :=
  .ofQuestion question.flavor question.text (question.answers.map (·.pattern))

end AuthoredQuestion

/-- Why an authored question cannot be graded. -/
inductive BuildError where
  | invalid (id : String) (report : ValidationReport)
  | unreadableAnswer (index : Nat) (id : String) (diagnostics : List Diagnostic)
  | fractionOutOfRange (index : Nat) (id : String) (fraction : Binary64)
deriving DecidableEq

def BuildError.message : BuildError → String
  | invalid id report =>
    "question '" ++ id ++ "' is invalid: " ++
      "; ".intercalate (report.map fun (field, d) => field.name ++ ": " ++ d.problem.message)
  | unreadableAnswer index id diagnostics =>
    "answer " ++ natText index ++ " of '" ++ id ++ "' failed to parse: " ++
      "; ".intercalate (diagnostics.map (·.problem.message))
  | fractionOutOfRange index id fraction =>
    "answer " ++ natText index ++ " of '" ++ id ++ "' has fraction " ++ fraction.plainText ++
      " outside 0..=1"

namespace AuthoredQuestion

/-- A share of the mark lies between zero and one. -/
def isShare (fraction : Binary64) : Bool := Binary64.le 0 fraction && fraction.le 1

def buildField (id : String) (flavor : Flavor) (index : Nat) (answer : AuthoredAnswer) :
    Except BuildError Field :=
  match Field.parse flavor answer.pattern with
  | .error diagnostics => .error (.unreadableAnswer index id diagnostics)
  | .ok field =>
    match flavor with
    | .cloze => .ok { field with gap := some (index + 1) }
    | .single =>
      if isShare answer.fraction then .ok { field with fraction := answer.fraction }
      else .error (.fractionOutOfRange index id answer.fraction)

/-- The fields of answers, the first of which has the index `index`. -/
def buildFields (id : String) (flavor : Flavor) :
    Nat → List AuthoredAnswer → Except BuildError (List Field)
  | _, [] => .ok []
  | index, answer :: rest =>
    if answer.pattern.isEmpty then buildFields id flavor (index + 1) rest
    else
      match buildField id flavor index answer with
      | .error e => .error e
      | .ok field => (buildFields id flavor (index + 1) rest).map (field :: ·)

/-- The question, ready for grading, if nothing is wrong with it. -/
def build (question : AuthoredQuestion) : Except BuildError Question :=
  let report := question.validate
  if report.isValid then
    (buildFields question.id question.flavor 0 question.answers).map fun fields =>
      ⟨question.id, question.name, question.flavor, question.text, fields⟩
  else .error (.invalid question.id report)

end AuthoredQuestion

end Gapfill
