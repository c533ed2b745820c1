import Gapfill.Cli.Output
import Gapfill.Settings

/-!
# Starting out

Settings and a question to start from are written to the current directory, unless they are there.
-/

namespace Gapfill.Cli

def sampleSettings : String := Output.lines
  ["# clozematch configuration", "", "output_dir = \"./clozematch-results\"",
    "default_format = \"text\"", "", "[engine]",
    "# Maximum compiled size of one pattern in bytes.", "size_limit = 1048576",
    "dfa_size_limit = 2097152", "# Longer answers are graded as wrong without being matched.",
    "max_candidate_len = 65536"]

def sampleQuestion : String := Output.lines
  ["[question]", "id = \"shell-basics\"", "name = \"Shell basics\"", "flavor = \"cloze\"",
    "text = \"\"\"", "List all files including hidden ones: [[1]]",
    "Count the lines of every Rust file: [[2]]", "Create a directory and enter it: [[3]]",
    "\"\"\"", "", "[[answers]]", "pattern = \"\"\"", "[[ls -a]]//", "%50 [[ls]]//",
    "feedback=Hidden files start with a dot.\"\"\"", "", "[[answers]]", "pattern = \"\"\"",
    "[[wc -l \\\\*\\\\.rs]]//", "%80 [[cat \\\\*\\\\.rs \\\\| wc -l]]/P/", "points=2\"\"\"", "",
    "[[answers]]", "pattern = \"\"\"", "[[mkdir work]] [[cd work]]/O/", "points=2\"\"\""]

def samplePath : String := "questions/example.toml"

def nextSteps : String := Output.lines
  ["", "Next steps:", "  1. Edit questions/example.toml or add your own questions",
    "  2. Run: clozematch validate --question questions/example.toml",
    "  3. Run: clozematch grade --question questions/example.toml --answer \"1=ls -a\""]

section

variable {m : Type → Type} [Monad m] [Host m]

/-- Writes a file unless it is there, and says which of both. -/
def provide (path content : String) : m (Except DiskFault String) := do
  if ← Host.pathExists path then return .ok (path ++ " already exists, skipping.\n")
  else return (← Host.write path content).map fun () => "Created " ++ path ++ "\n"

/-- Writes the files to start from. -/
def init : m Output := do
  match ← provide Settings.localPath sampleSettings with
  | .error fault => return .fail [fault.message]
  | .ok first =>
    match ← Host.ensureAbove samplePath with
    | .error fault => return .after first (.fail [fault.message])
    | .ok () =>
      match ← provide samplePath sampleQuestion with
      | .error fault => return .after first (.fail [fault.message])
      | .ok second => return .print (first ++ second ++ nextSteps)

end

end Gapfill.Cli
