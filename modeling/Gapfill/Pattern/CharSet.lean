import Gapfill.Unicode.CaseMap

/-!
# Sets of characters

A set of characters is kept as the expression that describes it, so that two
sets can be compared and a set can be written down without listing its members;
`CharSet.mem` says which characters belong to it.
-/

namespace Gapfill.Pattern

open Gapfill.Unicode (caseVariants)

/-- A description of a set of characters. -/
inductive CharSet where
  | none
  /-- All characters from `lo` to `hi`. -/
  | range (lo hi : Char)
  | property (p : Unicode.Property)
  /-- The decimal digits of all scripts. -/
  | digit
  /-- White space. -/
  | space
  /-- The characters of words. -/
  | word
  | compl (a : CharSet)
  | union (a b : CharSet)
  | inter (a b : CharSet)
  | diff (a b : CharSet)
  | symmDiff (a b : CharSet)
  /-- The set and every character that differs from a member by case only. -/
  | caseClosure (a : CharSet)
  /-- The set and every ASCII letter that differs from a member by case only. -/
  | asciiCaseClosure (a : CharSet)
deriving DecidableEq

namespace CharSet

/-- The other case of an ASCII letter. -/
def asciiOtherCase (c : Char) : Char :=
  if c.isUpper then c.toLower else c.toUpper

def mem : CharSet → Char → Bool
  | none, _ => false
  | range lo hi, c => lo ≤ c && c ≤ hi
  | property p, c => p.holds c
  | digit, c => Unicode.isDigit c
  | space, c => isBlank c
  | word, c => Unicode.isWord c
  | compl a, c => !a.mem c
  | union a b, c => a.mem c || b.mem c
  | inter a b, c => a.mem c && b.mem c
  | diff a b, c => a.mem c && !b.mem c
  | symmDiff a b, c => a.mem c != b.mem c
  | caseClosure a, c => a.mem c || (caseVariants c).any a.mem
  | asciiCaseClosure a, c => a.mem c || a.mem (asciiOtherCase c)

def single (c : Char) : CharSet := range c c

def unionOf : List CharSet → CharSet
  | [] => none
  | [a] => a
  | a :: rest => union a (unionOf rest)

def all : CharSet := compl none

/-- The set of the ASCII characters in these ranges. -/
def ofRanges (ranges : List (Char × Char)) : CharSet :=
  unionOf (ranges.map fun r => range r.1 r.2)

def asciiDigit : CharSet := range '0' '9'
def asciiSpace : CharSet := ofRanges [('\t', '\r'), (' ', ' ')]
def asciiWord : CharSet := ofRanges [('0', '9'), ('A', 'Z'), ('_', '_'), ('a', 'z')]

/-- The sets that can be named between `[:` and `:]`. -/
def ofAsciiName? (name : List Char) : Option CharSet :=
  match String.ofList name with
  | "alnum" => some (ofRanges [('0', '9'), ('A', 'Z'), ('a', 'z')])
  | "alpha" => some (ofRanges [('A', 'Z'), ('a', 'z')])
  | "ascii" => some (range '\x00' '\x7f')
  | "blank" => some (ofRanges [('\t', '\t'), (' ', ' ')])
  | "cntrl" => some (ofRanges [('\x00', '\x1f'), ('\x7f', '\x7f')])
  | "digit" => some asciiDigit
  | "graph" => some (range '!' '~')
  | "lower" => some (range 'a' 'z')
  | "print" => some (range ' ' '~')
  | "punct" => some (ofRanges [('!', '/'), (':', '@'), ('[', '\x60'), ('\x7b', '~')])
  | "space" => some asciiSpace
  | "upper" => some (range 'A' 'Z')
  | "word" => some asciiWord
  | "xdigit" => some (ofRanges [('0', '9'), ('A', 'F'), ('a', 'f')])
  | _ => Option.none

end CharSet

end Gapfill.Pattern
