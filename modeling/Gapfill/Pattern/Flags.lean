import Gapfill.Number.Digits
import Gapfill.Pattern.CharSet

/-!
# Switches and runs of characters

The switches that hold at a place in a pattern, and the readers that heed only them: blanks and
comments that may not count, and runs of digits or letters between which such blanks may stand.
-/

namespace Gapfill.Pattern

/-- The switches that hold at a place in a pattern. -/
structure Flags where
  /-- `i`: letters match whatever their case. -/
  ignoreCase : Bool
  /-- `s`: a dot matches a newline too. -/
  dotNewline : Bool
  /-- `m`: `^` and `$` match at every line. -/
  multiLine : Bool
  /-- `u`: classes and case are those of all scripts, not of ASCII. -/
  unicode : Bool
  /-- `R`: a carriage return ends a line too. -/
  crlf : Bool
  /-- `x`: blanks and comments between items do not count. -/
  skipBlanks : Bool
deriving DecidableEq

namespace Flags

def initial (ignoreCase dotNewline : Bool) : Flags :=
  ⟨ignoreCase, dotNewline, false, true, false, false⟩

/-- Turns on or off the switch of a letter. -/
def set? (f : Flags) (letter : Char) (on : Bool) : Option Flags :=
  match letter with
  | 'i' => some { f with ignoreCase := on }
  | 's' => some { f with dotNewline := on }
  | 'm' => some { f with multiLine := on }
  | 'u' => some { f with unicode := on }
  | 'R' => some { f with crlf := on }
  | 'x' => some { f with skipBlanks := on }
  | 'U' => some f
  | _ => none

/-- The characters of words, for the assertions about words. -/
def word (f : Flags) : CharSet := if f.unicode then .word else .asciiWord

/-- The set with the letters of the other case, if case does not matter. -/
def close (f : Flags) (s : CharSet) : CharSet :=
  if f.ignoreCase then (if f.unicode then .caseClosure s else .asciiCaseClosure s) else s

/-- Refuses a set that has more than ASCII where classes are those of ASCII: it would
match a part of a character. -/
def admit? (f : Flags) (s : CharSet) : Option CharSet :=
  if !f.unicode && s.mem '\u0080' then none else some s

end Flags

/-! ## Blanks and runs of characters -/

/-- Drops blanks and comments; `comment` says whether the text begins in a comment. -/
def dropBlanks : Bool → List Char → List Char
  | _, [] => []
  | true, c :: rest => dropBlanks (c != '\n') rest
  | false, c :: rest =>
    if isBlank c then dropBlanks false rest
    else if c == '#' then dropBlanks true rest
    else c :: rest

/-- Drops blanks and comments where they do not count. -/
def Flags.skip (f : Flags) (s : List Char) : List Char :=
  if f.skipBlanks then dropBlanks false s else s

/-- The longest run of characters with the property `p` at the start, between which blanks may
stand where they do not count, and what comes after it. -/
def takeRun (f : Flags) (p : Char → Bool) : Nat → List Char → List Char × List Char
  | fuel + 1, c :: rest =>
    if p c then
      let (run, after) := takeRun f p fuel (f.skip rest)
      (c :: run, after)
    else ([], c :: rest)
  | _, s => ([], s)

/-- As many characters with the property `p` as asked for. -/
def takeExactly (f : Flags) (p : Char → Bool) : Nat → List Char → Option (List Char × List Char)
  | 0, s => some ([], s)
  | _ + 1, [] => none
  | n + 1, c :: rest =>
    if p c then (takeExactly f p n (f.skip rest)).map fun (run, after) => (c :: run, after)
    else none

def charOf? (n : Nat) : Option Char :=
  if n < 0xd800 || (0xe000 ≤ n && n < 0x110000) then some (Char.ofNat n) else none

/-- What comes after `start` in the text, if the text begins so. -/
def after? (start : List Char) (s : List Char) : Option (List Char) :=
  if start.isPrefixOf s then some (s.drop start.length) else none

end Gapfill.Pattern
