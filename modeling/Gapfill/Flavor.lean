import Gapfill.Unicode.CaseMap

/-!
# Flavors of questions

A cloze question has several gaps, each with points of its own; a question of the single flavor
has one answer and alternatives for it. The flavor decides which keys may follow the patterns of
an answer field.
-/

namespace Gapfill

/-- A key that sets a property of an answer field. -/
inductive Key where
  | separator
  | points
  | size
  | feedback
  | comment
deriving DecidableEq

namespace Key

def name : Key → String
  | separator => "separator"
  | points => "points"
  | size => "size"
  | feedback => "feedback"
  | comment => "comment"

def all : List Key := [separator, points, size, feedback, comment]

def ofName? (name : String) : Option Key := all.find? fun k => k.name == name

end Key

/-- What kind of answer a question asks for. -/
inductive Flavor where
  /-- Several gaps, scored one by one. -/
  | cloze
  /-- One whole answer. -/
  | single
deriving DecidableEq

namespace Flavor

def name : Flavor → String
  | cloze => "cloze"
  | single => "single"

/-- The keys that may follow the patterns, in the order in which they may come. -/
def keys : Flavor → List Key
  | cloze => [.separator, .points, .size, .feedback, .comment]
  | single => [.separator, .feedback, .comment]

/-- The flavor with this name, whatever its case; the error is its wording. -/
def ofName (name : String) : Except String Flavor :=
  match String.ofList (Unicode.lowercase name.toList) with
  | "cloze" | "regexmatchcloze" => .ok cloze
  | "single" | "regexmatch" => .ok single
  | other => .error ("unknown question flavor: " ++ other)

end Flavor

end Gapfill
