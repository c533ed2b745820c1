import Gapfill.Cli.Explain
import Gapfill.Cli.Grade
import Gapfill.Cli.Init
import Gapfill.Cli.Validate

/-!
# Running commands
-/

namespace Gapfill.Cli

variable {m : Type → Type} [Monad m] [Host m]

def Command.run : Command → m Output
  | validate question => Cli.validate question
  | grade question answers responses? format? destination settings? =>
    Cli.grade question answers responses? format? destination settings?
  | explain question settings? => Cli.explain question settings?
  | init => Cli.init

def versionText : String := "clozematch 0.1.0\n"

def usageText : String := Output.lines
  ["Regex cloze question grader", "", "Usage: clozematch <COMMAND>", "", "Commands:",
    "  validate  Check question files for authoring errors",
    "  grade     Grade learner answers against a question",
    "  explain   Show the compiled regex of every answer pattern",
    "  init      Create starter config and example question"]

/-- Does what a command line asks for; nothing if it asks for nothing that there is. -/
def run? (arguments : List String) : m (Option Output) :=
  match Request.ofArguments? arguments with
  | none => return none
  | some .usage => return some (.print usageText)
  | some .version => return some (.print versionText)
  | some (.run command) => return some (← command.run)

end Gapfill.Cli
