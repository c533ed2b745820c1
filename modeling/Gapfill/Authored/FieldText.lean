import Gapfill.Authored.Keys
import Gapfill.Compiled

/-!
# The text of an answer field

`Field.parse` reads a field from what its author wrote. It succeeds if nothing is wrong with the
text and all its patterns compile; else it gives every diagnostic, in the order in which they
were found.
-/

namespace Gapfill

namespace Field

/-- Joins the expressions of a block as the author wrote them. -/
def joinedRegexes (regexes : List String) : String := "]] [[".intercalate regexes

/-- A diagnostic for each sub-pattern that does not compile. -/
def compileProblems (field : Field) : List Diagnostic :=
  field.subPatterns.filterMap fun sub =>
    match Compiled.ofSubPattern sub field.separator .default with
    | .ok _ => none
    | .error e => some ⟨.invalidRegex (joinedRegexes sub.regexes) e.refusal.message, none⟩

/-- Reads the text of a field without carriage returns. -/
def parseSource (flavor : Flavor) (source : List Char) : Except (List Diagnostic) Field :=
  let (start, text) := skipBlanks 0 source
  let blocks := readBlocks .default source (source.length + 1) true start text
  match blocks.rest with
  | none => .error blocks.diagnostics
  | some (keysAt, keys) =>
    let (field, keyDiagnostics) :=
      readKeys flavor { Field.empty with subPatterns := blocks.subPatterns } keysAt keys
    match blocks.diagnostics ++ keyDiagnostics with
    | [] =>
      match field.compileProblems with
      | [] => .ok field
      | diagnostics => .error diagnostics
    | diagnostics => .error diagnostics

/-- Reads an answer field from the text that its author wrote. -/
def parse (flavor : Flavor) (text : String) : Except (List Diagnostic) Field :=
  parseSource flavor (text.toList.filter (· != '\r'))

end Field

end Gapfill
