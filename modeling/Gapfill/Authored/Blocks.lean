import Gapfill.Field
import Gapfill.Problem
import Gapfill.Text.Blank
import Gapfill.Text.Split

/-!
# Pattern blocks

An answer field begins with blocks of patterns. A block is a list of expressions, each in double
brackets, and option letters between slashes; every block but the first has a percentage in front:

    [[ls -a]] [[ls --all]] /I/
    %50 [[ls]]//

Reading goes on after a problem where it can; a fatal one ends it.
-/

namespace Gapfill

/-! ## Anchors -/

/-- Where the first `$` or `^` stands that no backslash escapes. `escaped` says that a backslash
escapes the first character, and `pos` how many bytes come before it. -/
def bareAnchorFrom : Bool → Nat → List Char → Option Nat
  | _, _, [] => none
  | true, pos, c :: rest => bareAnchorFrom false (pos + c.utf8Size) rest
  | false, pos, c :: rest =>
    if c = '$' || c = '^' then some pos
    else bareAnchorFrom (c == '\\') (pos + c.utf8Size) rest

/-- How many bytes come before the first bare `$` or `^`. A `^` that negates a bracket set counts.
-/
def bareAnchor? (body : List Char) : Option Nat := bareAnchorFrom false 0 body

/-! ## Delimiters -/

/-- The blanks that may stand between delimiters. -/
def isGapBlank (c : Char) : Bool := c == ' ' || c == '\t' || c == '\n'

/-- A letter that may stand between the slashes. -/
def isAsciiLetter (c : Char) : Bool := c.isAlpha

/-- The end of a block: closing brackets, blanks, and letters between slashes. -/
structure BlockEnd where
  blanks : List Char
  letters : List Char
deriving DecidableEq

def BlockEnd.lettersOffset (e : BlockEnd) : Nat := e.blanks.length + 3

def BlockEnd.length (e : BlockEnd) : Nat := e.blanks.length + e.letters.length + 4

/-- Reads the end of a block that begins right here. -/
def blockEnd? : List Char → Option (BlockEnd × List Char)
  | ']' :: ']' :: rest =>
    match rest.dropWhile isGapBlank with
    | '/' :: rest' =>
      match rest'.dropWhile isAsciiLetter with
      | '/' :: after => some (⟨rest.takeWhile isGapBlank, rest'.takeWhile isAsciiLetter⟩, after)
      | _ => none
    | _ => none
  | _ => none

/-- Cuts a text at the first end of a block: what comes before it, the end, and what comes after. -/
def cutAtBlockEnd : List Char → Option (List Char × BlockEnd × List Char)
  | [] => none
  | c :: rest =>
    match blockEnd? (c :: rest) with
    | some (e, after) => some ([], e, after)
    | none =>
      match cutAtBlockEnd rest with
      | some (before, e, after) => some (c :: before, e, after)
      | none => none

/-- How many characters the boundary between two expressions takes, if one begins here. -/
def boundaryLength? : List Char → Option Nat
  | ']' :: ']' :: rest =>
    match rest.dropWhile isGapBlank with
    | '[' :: '[' :: _ => some ((rest.takeWhile isGapBlank).length + 4)
    | _ => none
  | _ => none

/-- The expressions of a block, each with the number of bytes before it. `pos` bytes come before
the text; `skip` characters of it belong to a boundary; `current` is the expression read so far,
backwards, which begins at `start`. -/
def bodiesFrom : Nat → Nat → Nat → List Char → List Char → List (Nat × List Char)
  | _, _, start, current, [] => [(start, current.reverse)]
  | pos, skip + 1, _, _, c :: rest =>
    bodiesFrom (pos + c.utf8Size) skip (pos + c.utf8Size) [] rest
  | pos, 0, start, current, c :: rest =>
    match boundaryLength? (c :: rest) with
    | some n =>
      (start, current.reverse) :: bodiesFrom (pos + c.utf8Size) (n - 1) (pos + c.utf8Size) [] rest
    | none => bodiesFrom (pos + c.utf8Size) 0 start (c :: current) rest

/-- The expressions of a block, whose text begins after `pos` bytes. -/
def bodies (pos : Nat) (text : List Char) : List (Nat × List Char) := bodiesFrom pos 0 pos [] text

/-- A diagnostic for each expression with a bare anchor. -/
def anchorProblems (bodies : List (Nat × List Char)) : List Diagnostic :=
  bodies.filterMap fun (start, body) =>
    (bareAnchor? body).map fun n => .at .unescapedAnchor (start + n)

/-! ## Percentages -/

def fullWeight : Nat := 100

/-- Reads a percentage: its value, how many bytes it takes, and what comes after it. -/
def readPercentage : List Char → Except Problem (Nat × Nat × List Char)
  | '%' :: rest =>
    let digits := rest.takeWhile Char.isDigit
    if digits.isEmpty then .error .illegalSyntax
    else if fullWeight < ofDecimalDigits digits then
      .error (.illegalPercentage (String.ofList digits))
    else .ok (ofDecimalDigits digits, digits.length + 1, rest.dropWhile Char.isDigit)
  | _ => .error .illegalSyntax

/-! ## Blocks -/

structure BlockReading where
  diagnostics : List Diagnostic
  subPattern : Option SubPattern
  /-- How many bytes come before the rest, and the rest; nothing after a fatal problem. -/
  rest : Option (Nat × List Char)

/-- A block that ends the reading. -/
def BlockReading.stop (diagnostics : List Diagnostic) : BlockReading := ⟨diagnostics, none, none⟩

/-- Skips the blanks at the start of a text that begins after `pos` bytes. -/
def skipBlanks (pos : Nat) (text : List Char) : Nat × List Char :=
  (pos + utf8Length (text.takeWhile isBlank), trimStart text)

/-- Reads a block after its percentage. `source` is the text of the whole field, of which `text`,
the rest, begins after `pos` bytes. -/
def readBlockBody (options : Options) (source : List Char) (first : Bool) (weight pos : Nat)
    (text : List Char) : BlockReading :=
  match cutAtBlockEnd text with
  | none => .stop [.at .illegalSyntax pos]
  | some (raw, e, rest) =>
    let (bodyAt, _) := skipBlanks pos raw
    let endAt := pos + utf8Length raw
    let letters := String.ofList e.letters
    let finish (diagnostics : List Diagnostic) (regexes : List String) : BlockReading :=
      match options.setAll e.letters with
      | .error option =>
        .stop (diagnostics ++ [.at (.unknownOption option) (endAt + e.lettersOffset)])
      | .ok options =>
        let subPattern := if regexes.isEmpty then none else some ⟨regexes, weight, letters, options⟩
        ⟨diagnostics, subPattern, some (skipBlanks (endAt + e.length) rest)⟩
    match trim raw with
    | '[' :: '[' :: inner =>
      let found := bodies (bodyAt + 2) inner
      finish (anchorProblems found) (found.map fun (_, body) => String.ofList body)
    | other =>
      if first then .stop [.at .illegalSyntax bodyAt]
      else
        let context := source.take (source.length - (trimStart text).length)
        finish [.at (.illegalCharacter (String.ofList context) (String.ofList (other.take 1)) "[[")
          bodyAt] []

def readBlock (options : Options) (source : List Char) (first : Bool) (pos : Nat)
    (text : List Char) : BlockReading :=
  if first then readBlockBody options source true fullWeight pos text
  else
    match readPercentage text with
    | .error problem => .stop [.at problem pos]
    | .ok (weight, length, rest) => readBlockBody options source false weight (pos + length) rest

structure BlocksReading where
  diagnostics : List Diagnostic
  subPatterns : List SubPattern
  /-- How many bytes come before the keys, and the text of the keys; nothing after a fatal
  problem. -/
  rest : Option (Nat × List Char)

/-- Reads block after block, as long as a percentage follows. -/
def readBlocks (options : Options) (source : List Char) :
    Nat → Bool → Nat → List Char → BlocksReading
  | 0, _, pos, text => ⟨[], [], some (pos, text)⟩
  | fuel + 1, first, pos, text =>
    let block := readBlock options source first pos text
    let subPatterns := block.subPattern.toList
    match block.rest with
    | some (pos, '%' :: rest) =>
      let more := readBlocks options source fuel false pos ('%' :: rest)
      ⟨block.diagnostics ++ more.diagnostics, subPatterns ++ more.subPatterns, more.rest⟩
    | rest => ⟨block.diagnostics, subPatterns, rest⟩

end Gapfill
