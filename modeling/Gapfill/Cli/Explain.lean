import Gapfill.Cli.Output
import Gapfill.Question.Library
import Gapfill.Settings
import Gapfill.Text.Table

/-!
# Explaining patterns

Every sub-pattern of a question is shown as it is compiled within the limits that are set.
-/

namespace Gapfill.Cli

/-- How a sub-pattern is matched, and its expressions as they are compiled. -/
def compiledText : Compiled → String × String
  | .ordered matcher _ => ("ordered", matcher.delimited)
  | .anyOrder matchers _ _ => ("any order", "\n".intercalate (matchers.map (·.delimited)))
  | .unusable e => ("unparsable", e.message)

/-- What a field is called: its gap with the points, or the index of an alternative with its
share. -/
def fieldLabel (index : Nat) (field : Field) : String :=
  match field.gap with
  | some gap => "gap " ++ natText gap ++ " (" ++ field.points.plainText ++ " pt)"
  | none => "answer " ++ natText index ++ " (x" ++ field.fraction.plainText ++ ")"

def subPatternRow (limits : Limits) (label separator : String) (sub : SubPattern) : List String :=
  let (mode, text) := compiledText (Compiled.ofStored sub separator limits)
  [label, natText sub.weight ++ "%", sub.options.letters, mode, text]

def explanation (limits : Limits) (question : Question) : Table where
  head := ["Field", "Weight", "Options", "Mode", "Compiled"]
  rows := (question.fields.mapIdx fun index field =>
    field.subPatterns.map (subPatternRow limits (fieldLabel index field) field.separator)).flatten

def explainOutput (limits : Limits) (question : Question) : Output :=
  .print <| Output.lines
    ["Question: " ++ question.name ++ " (" ++ question.flavor.name ++ ", max " ++
      question.maxPoints.plainText ++ " points)", (explanation limits question).text]

variable {m : Type → Type} [Monad m] [Host m]

def explain (path : String) (settings? : Option String) : m Output := do
  match ← Settings.load settings? with
  | .error e => return .fail e.messages
  | .ok settings =>
    match ← Question.load path with
    | .error e => return .fail e.messages
    | .ok question => return explainOutput settings.limits question

end Gapfill.Cli
