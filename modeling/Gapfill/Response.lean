/-!
# Responses

What a learner submits: texts for numbered gaps, or one whole answer. The texts of the gaps are
kept in increasing order of their numbers, one for each.
-/

namespace Gapfill

/-- The texts given for numbered gaps, in increasing order of the numbers. -/
abbrev GapAnswers := List (Nat × String)

namespace GapAnswers

def insert (gap : Nat) (text : String) : GapAnswers → GapAnswers
  | [] => [(gap, text)]
  | (g, t) :: rest =>
    if gap < g then (gap, text) :: (g, t) :: rest
    else if gap = g then (gap, text) :: rest
    else (g, t) :: insert gap text rest

/-- The texts in the list under their numbers; of two under one number the later. -/
def ofList (entries : List (Nat × String)) : GapAnswers :=
  entries.foldl (fun answers entry => answers.insert entry.1 entry.2) []

def get? (answers : GapAnswers) (gap : Nat) : Option String := answers.lookup gap

end GapAnswers

/-- A learner's submission for one question. -/
inductive Response where
  | cloze (answers : GapAnswers)
  | single (answer : String)
deriving DecidableEq

/-- The text for a gap; a whole answer is the text for every gap. -/
def Response.answerFor (response : Response) (gap : Option Nat) : Option String :=
  match response, gap with
  | cloze answers, some gap => answers.get? gap
  | cloze _, none => none
  | single answer, _ => some answer

end Gapfill
