import Gapfill.Number.Count
import Gapfill.Response
import Gapfill.Text.Blank
import Gapfill.Toml.Document

/-!
# Batches of responses

A responses file is a TOML document with an array `responses`. A response names its learner and
gives either one whole answer or a table of texts, the keys of which are numbers of gaps. A
whole answer comes before a table. The keys of a table are read in the order of their
characters; of two keys for one gap the later counts.
-/

namespace Gapfill

/-- A response with the name under which it is handed in. -/
structure Submission where
  id : String
  response : Response
deriving DecidableEq

/-- Why a document is no batch of responses. -/
inductive BatchError where
  /-- It is no TOML document, or not one of this shape. -/
  | malformed (source : String)
  | badGap (id key : String) (fault : CountFault)
deriving DecidableEq

namespace BatchError

def message : BatchError → String
  | malformed source => "failed to parse TOML: " ++ source
  | badGap id key _ => "response '" ++ id ++ "' has a non-numeric gap key '" ++ key ++ "'"

def messages (e : BatchError) : List String :=
  match e with
  | malformed _ => [e.message, "TOML parse error"]
  | badGap _ _ fault => [e.message, fault.message]

end BatchError

structure BatchEntry where
  id : String
  gaps : List (String × String)
  answer : Option String
deriving DecidableEq

namespace BatchEntry

def ofValue? (value : Toml.Value) : Option BatchEntry := do
  let record ← value.record? ["id", "gaps", "answer"]
  return ⟨← record.required? "id" Toml.Value.string?,
    ← record.optional? "gaps" Toml.Value.texts? [],
    ← record.optional? "answer" (fun value => value.string?.map some) none⟩

/-- Reads keys with their texts, in this order. -/
def readGaps (id : String) : List (String × String) → Except BatchError (List (Nat × String))
  | [] => .ok []
  | (key, text) :: rest =>
    match readCount (trim key.toList) with
    | .error fault => .error (.badGap id key fault)
    | .ok gap => (readGaps id rest).map ((gap, text) :: ·)

def submission (entry : BatchEntry) : Except BatchError Submission :=
  match entry.answer with
  | some answer => .ok ⟨entry.id, .single answer⟩
  | none =>
    (readGaps entry.id (entry.gaps.mergeSort fun a b => a.1 ≤ b.1)).map fun gaps =>
      ⟨entry.id, .cloze (.ofList gaps)⟩

end BatchEntry

/-- Reads a responses file; `source` is its name in messages. -/
def Submission.batchOfToml (source document : String) : Except BatchError (List Submission) :=
  let entries? := (Toml.parse document).bind fun root =>
    root.optional? "responses" (Toml.Value.listOf? BatchEntry.ofValue?) []
  match entries? with
  | none => .error (.malformed source)
  | some entries => entries.mapM BatchEntry.submission

end Gapfill
