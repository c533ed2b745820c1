/-!
# Matching options

Seven switches say how tolerantly an answer is matched. A string of option letters
sets them from left to right: a capital turns its switch on, a small letter off.
-/

namespace Gapfill

/-- How tolerantly a pattern is matched. -/
structure Options where
  /-- `I`: the case of letters does not matter. -/
  ignoreCase : Bool
  /-- `D`: a dot matches a newline too. -/
  dotNewline : Bool
  /-- `P`: blanks may stand around `;` and `\|`, and a newline may stand for `;`. -/
  pipeSpace : Bool
  /-- `R`: blanks may stand around `<`, `>`, `<<` and `>>`. -/
  redirectSpace : Bool
  /-- `O`: the lines of the answer may come in any order. -/
  anyOrder : Bool
  /-- `S`: a space stands for one or more spaces and tabs. -/
  wideSpace : Bool
  /-- `T`: blanks at the ends of the answer do not count. -/
  trimEnds : Bool
deriving DecidableEq

namespace Options

/-- Wide spaces and trimmed ends, nothing else. -/
def default : Options := ⟨false, false, false, false, false, true, true⟩

/-- The capital letters of the options, in their usual order. -/
def capitals : List Char := ['I', 'D', 'P', 'R', 'O', 'S', 'T']

def isLetter (c : Char) : Bool := capitals.contains c.toUpper

/-- The options after one letter, if it is an option letter. -/
def set? (o : Options) (letter : Char) : Option Options :=
  let on := letter.isUpper
  match letter.toUpper with
  | 'I' => some { o with ignoreCase := on }
  | 'D' => some { o with dotNewline := on }
  | 'P' => some { o with pipeSpace := on }
  | 'R' => some { o with redirectSpace := on }
  | 'O' => some { o with anyOrder := on }
  | 'S' => some { o with wideSpace := on }
  | 'T' => some { o with trimEnds := on }
  | _ => none

/-- The options after a string of letters; the error is the first character that is no option
letter. -/
def setAll (o : Options) : List Char → Except Char Options
  | [] => .ok o
  | letter :: rest =>
    match o.set? letter with
    | some o => o.setAll rest
    | none => .error letter

/-- The options after the letters in `letters`. -/
def withLetters (o : Options) (letters : String) : Except Char Options := o.setAll letters.toList

/-- The state of the option with this capital letter. -/
def get (o : Options) : Char → Bool
  | 'I' => o.ignoreCase
  | 'D' => o.dotNewline
  | 'P' => o.pipeSpace
  | 'R' => o.redirectSpace
  | 'O' => o.anyOrder
  | 'S' => o.wideSpace
  | 'T' => o.trimEnds
  | _ => false

/-- All options in their usual order, a capital for one that is on. -/
def letters (o : Options) : String :=
  String.ofList (capitals.map fun c => if o.get c then c else c.toLower)

end Options

end Gapfill
