import Gapfill.Batch
import Gapfill.Disk.Host
import Gapfill.Question.Authored

/-!
# Questions and responses in files

Question files are those with a name that ends in `.toml`, at any depth below a directory. They
are looked for directory by directory: what does not show as a directory under its path is taken
for a file. Loading a whole directory leaves out the files that do not hold a valid question.
-/

namespace Gapfill

/-- Why a question cannot be had from a file. -/
inductive QuestionError where
  | unreadable (path : String) (fault : DiskFault)
  | authoring (cause : AuthoringError)
  | build (path : String) (cause : BuildError)
  | notADirectory (path : String)
  | unlistable (path : String) (fault : DiskFault)
deriving DecidableEq

namespace QuestionError

def messages : QuestionError → List String
  | unreadable path fault => ["failed to read question file: " ++ path, fault.message]
  | authoring cause => cause.messages
  | build path cause => ["invalid question file: " ++ path, cause.message]
  | notADirectory path => ["not a directory: " ++ path]
  | unlistable path fault => ["failed to read directory: " ++ path, fault.message]

end QuestionError

inductive ResponsesError where
  | unreadable (path : String) (fault : DiskFault)
  | batch (cause : BatchError)
deriving DecidableEq

def ResponsesError.messages : ResponsesError → List String
  | unreadable path fault => ["failed to read responses file: " ++ path, fault.message]
  | batch cause => cause.messages

section

variable {m : Type → Type} [Monad m] [Host m]

/-- Reads a question file without looking into its patterns. -/
def AuthoredQuestion.load (path : String) : m (Except QuestionError AuthoredQuestion) := do
  match ← Host.read path with
  | .error fault => return .error (.unreadable path fault)
  | .ok document =>
    match AuthoredQuestion.ofToml path document with
    | .error cause => return .error (.authoring cause)
    | .ok question => return .ok question

namespace Question

/-- Reads a question file and builds the question. -/
def load (path : String) : m (Except QuestionError Question) := do
  match ← AuthoredQuestion.load path with
  | .error e => return .error e
  | .ok question =>
    match question.build with
    | .error cause => return .error (.build path cause)
    | .ok question => return .ok question

/-- The question files at a name in a directory: those that `below` gives for a directory, or the
path itself if its name says so. -/
def filesAt (below : String → m (Except QuestionError (List String))) (directory name : String) :
    m (Except QuestionError (List String)) := do
  let path := Path.join directory name
  if ← Host.isDirectory path then below path
  else return .ok (if Path.isToml name then [path] else [])

def filesAmong (below : String → m (Except QuestionError (List String))) (directory : String) :
    List String → m (Except QuestionError (List String))
  | [] => return .ok []
  | name :: rest => do
    match ← filesAt below directory name with
    | .error e => return .error e
    | .ok found => return (← filesAmong below directory rest).map (found ++ ·)

/-- The question files in so many levels of directories, put in order in each of them. -/
def filesWithin : Nat → String → m (Except QuestionError (List String))
  | 0, directory => return .error (.notADirectory directory)
  | levels + 1, directory => do
    if ← Host.isDirectory directory then
      match ← Host.list directory with
      | .error fault => return .error (.unlistable directory fault)
      | .ok names =>
        return (← filesAmong (filesWithin levels) directory names).map Path.inOrder
    else return .error (.notADirectory directory)

/-- The paths of the question files below a directory, in their order. The path of a directory has a
byte at least for every level, so that there are not more levels than a path can have bytes. -/
def filesIn (directory : String) : m (Except QuestionError (List String)) :=
  filesWithin Disk.maxPath directory

/-- The questions in files, without those that cannot be had. -/
def loadAll : List String → m (List Question)
  | [] => return []
  | path :: rest => do
    match ← load path with
    | .error _ => loadAll rest
    | .ok question => return question :: (← loadAll rest)

/-- The questions below a directory. -/
def loadDirectory (directory : String) : m (Except QuestionError (List Question)) := do
  match ← filesIn directory with
  | .error e => return .error e
  | .ok paths => return .ok (← loadAll paths)

end Question

def Submission.loadBatch (path : String) : m (Except ResponsesError (List Submission)) := do
  match ← Host.read path with
  | .error fault => return .error (.unreadable path fault)
  | .ok document =>
    match Submission.batchOfToml path document with
    | .error cause => return .error (.batch cause)
    | .ok submissions => return .ok submissions

end

end Gapfill
