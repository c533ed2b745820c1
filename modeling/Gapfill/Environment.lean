import Gapfill.Text.Split

/-!
# Variables of a run

A text may refer to variables as `${NAME}`. The leftmost reference is replaced by the value, and
then the whole text is read anew, so that a value may bring references with it or complete one.
A variable without a value is empty, and a reference that is not closed ends it all. Nothing
makes this come to an end; `expand?` is left unfinished after so many references.
-/

namespace Gapfill

abbrev Environment := List (String × String)

namespace Reference

/-- What comes before the first `${`, and what comes behind it. -/
def opening? : List Char → Option (List Char × List Char)
  | '$' :: '\x7b' :: rest => some ([], rest)
  | c :: rest => (opening? rest).map fun (before, rest) => (c :: before, rest)
  | [] => none

/-- What comes before the first `}`, and what comes behind it. -/
def closing? : List Char → Option (List Char × List Char)
  | '\x7d' :: rest => some ([], rest)
  | c :: rest => (closing? rest).map fun (before, rest) => (c :: before, rest)
  | [] => none

def valueOf (environment : Environment) (name : List Char) : List Char :=
  ((environment.lookup (String.ofList name)).getD "").toList

/-- Replaces the leftmost reference, if there is one. -/
def step? (environment : Environment) (text : List Char) : Option (List Char) := do
  let (before, rest) ← opening? text
  let (name, after) ← closing? rest
  return before ++ valueOf environment name ++ after

/-- Replaces references until there is none, but not more than so many. -/
def expand? (environment : Environment) : Nat → List Char → Option (List Char)
  | 0, text => if (step? environment text).isNone then some text else none
  | fuel + 1, text =>
    match step? environment text with
    | none => some text
    | some next => expand? environment fuel next

/-- How many references are replaced beyond those for which a text has room. -/
def spare : Nat := 20000

/-- The text with values for its references, if all of them are replaced in time. -/
def expandText? (environment : Environment) (text : String) : Option String :=
  (expand? environment (text.toList.length + spare) text.toList).map String.ofList

end Reference

end Gapfill
