import Gapfill.Json.Printer
import Gapfill.Json.Reader
import Gapfill.Report.Basic

/-!
# Saved reports

A report is saved as a JSON text, and read back from one. Reading takes the fields of a record
in any order and passes over others; only what may be null may be missing.
-/

namespace Gapfill

/-! ## Writing -/

/-- A number, or null if there is none. -/
def Json.ofNat? : Option Nat → Json
  | none => .null
  | some n => .integer n

def Outcome.toJson (outcome : Outcome) : Json :=
  .object [("gap", .ofNat? outcome.gap), ("earned_points", .float outcome.earned),
    ("max_points", .float outcome.most), ("matched_sub_pattern", .ofNat? outcome.subPattern),
    ("classification", .string outcome.classification.name)]

def Attempt.toJson (attempt : Attempt) : Json :=
  .object [("response_id", .string attempt.responseId), ("summary", .string attempt.summary),
    ("fraction", .float attempt.fraction), ("mark", .float attempt.mark),
    ("classification", .string attempt.classification.name),
    ("fields", .array (attempt.outcomes.map Outcome.toJson))]

def Aggregate.toJson (aggregate : Aggregate) : Json :=
  .object [("right", .integer aggregate.right), ("partial", .integer aggregate.partly),
    ("wrong", .integer aggregate.wrong), ("mean_fraction", .float aggregate.meanFraction)]

def QuestionSummary.toJson (question : QuestionSummary) : Json :=
  .object [("id", .string question.id), ("name", .string question.name),
    ("flavor", .string question.flavor), ("field_count", .integer question.fieldCount),
    ("max_points", .float question.maxPoints)]

namespace GradeReport

def toJson (report : GradeReport) : Json :=
  .object [("id", .string report.stamp.id.text), ("created_at", .string report.stamp.time.text),
    ("question", report.question.toJson), ("attempts", .array (report.attempts.map Attempt.toJson)),
    ("aggregate", report.aggregate.toJson), ("duration_ms", .integer report.stamp.milliseconds)]

def text (report : GradeReport) : String := report.toJson.pretty

end GradeReport

/-! ## Reading -/

namespace Classification

def ofName? : String → Option Classification
  | "wrong" => some wrong
  | "partial" => some partly
  | "right" => some right
  | _ => none

/-- Reads a class: its name, or an object in which the name has a null. -/
def ofJson? : Json → Option Classification
  | .string name => ofName? name
  | .object [(name, .null)] => ofName? name
  | _ => none

end Classification

def Outcome.ofJson? (json : Json) : Option Outcome := do
  let r ← json.record?
    ["gap", "earned_points", "max_points", "matched_sub_pattern", "classification"]
  return ⟨← Json.nullableField? r "gap" Json.nat?, ← Json.field? r "earned_points" Json.float?,
    ← Json.field? r "max_points" Json.float?,
    ← Json.nullableField? r "matched_sub_pattern" Json.nat?,
    ← Json.field? r "classification" Classification.ofJson?⟩

def Attempt.ofJson? (json : Json) : Option Attempt := do
  let r ← json.record?
    ["response_id", "summary", "fraction", "mark", "classification", "fields"]
  return ⟨← Json.field? r "response_id" Json.text?, ← Json.field? r "summary" Json.text?,
    ← Json.field? r "fraction" Json.float?, ← Json.field? r "mark" Json.float?,
    ← Json.field? r "classification" Classification.ofJson?,
    ← Json.field? r "fields" (Json.list? Outcome.ofJson?)⟩

def Aggregate.ofJson? (json : Json) : Option Aggregate := do
  let r ← json.record? ["right", "partial", "wrong", "mean_fraction"]
  return ⟨← Json.field? r "right" Json.nat?, ← Json.field? r "partial" Json.nat?,
    ← Json.field? r "wrong" Json.nat?, ← Json.field? r "mean_fraction" Json.float?⟩

def QuestionSummary.ofJson? (json : Json) : Option QuestionSummary := do
  let r ← json.record? ["id", "name", "flavor", "field_count", "max_points"]
  return ⟨← Json.field? r "id" Json.text?, ← Json.field? r "name" Json.text?,
    ← Json.field? r "flavor" Json.text?, ← Json.field? r "field_count" Json.nat?,
    ← Json.field? r "max_points" Json.float?⟩

/-- Why a saved report cannot be had. -/
inductive SavedReportError where
  | unreadable (path : String) (fault : DiskFault)
  | malformed
deriving DecidableEq

def SavedReportError.message : SavedReportError → String
  | unreadable path _ => "failed to read report from " ++ path
  | malformed => "failed to parse report JSON"

namespace GradeReport

def ofJson? (json : Json) : Option GradeReport := do
  let r ← json.record? ["id", "created_at", "question", "attempts", "aggregate", "duration_ms"]
  let id ← Json.field? r "id" fun json => json.text?.bind Uuid.ofText?
  let time ← Json.field? r "created_at" fun json => json.text?.bind Instant.ofText?
  let question ← Json.field? r "question" QuestionSummary.ofJson?
  let attempts ← Json.field? r "attempts" (Json.list? Attempt.ofJson?)
  let aggregate ← Json.field? r "aggregate" Aggregate.ofJson?
  let milliseconds ← Json.field? r "duration_ms" Json.nat?
  return ⟨⟨id, time, milliseconds⟩, question, attempts, aggregate⟩

def ofText? (text : String) : Option GradeReport := (Json.parse? text).bind ofJson?

variable {m : Type → Type} [Monad m] [Host m]

def load (path : String) : m (Except SavedReportError GradeReport) := do
  match ← Host.read path with
  | .error fault => return .error (.unreadable path fault)
  | .ok text =>
    match ofText? text with
    | none => return .error .malformed
    | some report => return .ok report

end GradeReport

end Gapfill
