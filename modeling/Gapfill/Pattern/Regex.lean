import Gapfill.Pattern.CharSet

/-!
# Regular expressions

The expressions have counted repetition and assertions about a place in the
text. A place is known by the character before it and the character after it;
all assertions can be decided from these two.

Matching goes by partial derivatives: what may still follow after one character
is a finite list of expressions (`Regex.after`), and an expression accepts at a
place if it is `nullable` there. Greed and laziness do not matter, since only the
question whether there is a match is asked.
-/

namespace Gapfill.Pattern

/-- A place in a text: the characters right before and right after it. -/
structure Place where
  before : Option Char
  next : Option Char
deriving DecidableEq

namespace Place

def wordBefore (letters : CharSet) (p : Place) : Bool := p.before.any letters.mem

def wordNext (letters : CharSet) (p : Place) : Bool := p.next.any letters.mem

end Place

/-- An assertion about a place in the text. -/
inductive Look where
  | textStart
  | textEnd
  /-- After a newline, or at the start of the text. -/
  | lineStart
  /-- Before a newline, or at the end of the text. -/
  | lineEnd
  /-- As `lineStart`, where a carriage return, a newline or both in this order end a line. -/
  | crlfLineStart
  | crlfLineEnd
  /-- Between a character of `letters` and another one or the end of the text. -/
  | wordBoundary (letters : CharSet)
  | noWordBoundary (letters : CharSet)
  | wordStart (letters : CharSet)
  | wordEnd (letters : CharSet)
  /-- No character of `letters` comes before. -/
  | wordStartHalf (letters : CharSet)
  /-- No character of `letters` comes next. -/
  | wordEndHalf (letters : CharSet)
deriving DecidableEq

def Look.holds (p : Place) : Look → Bool
  | textStart => p.before.isNone
  | textEnd => p.next.isNone
  | lineStart => p.before.isNone || p.before == some '\n'
  | lineEnd => p.next.isNone || p.next == some '\n'
  | crlfLineStart =>
    p.before.isNone || p.before == some '\n' || (p.before == some '\r' && p.next != some '\n')
  | crlfLineEnd =>
    p.next.isNone || p.next == some '\r' || (p.next == some '\n' && p.before != some '\r')
  | wordBoundary w => p.wordBefore w != p.wordNext w
  | noWordBoundary w => p.wordBefore w == p.wordNext w
  | wordStart w => !p.wordBefore w && p.wordNext w
  | wordEnd w => p.wordBefore w && !p.wordNext w
  | wordStartHalf w => !p.wordBefore w
  | wordEndHalf w => !p.wordNext w

/-- A regular expression. -/
inductive Regex where
  /-- The empty text. -/
  | empty
  /-- One character of the set. -/
  | chars (set : CharSet)
  /-- The empty text at a place of which the assertion is true. -/
  | look (l : Look)
  | cat (a b : Regex)
  | alt (a b : Regex)
  /-- From `min` to `max` times, or `min` times and more if there is no `max`. -/
  | rep (r : Regex) (min : Nat) (max : Option Nat)
deriving DecidableEq

namespace Regex

/-- All expressions of the list one after the other. -/
def catOf : List Regex → Regex
  | [] => empty
  | [r] => r
  | r :: rest => cat r (catOf rest)

/-- Any of the expressions of the list. -/
def altOf : List Regex → Regex
  | [] => empty
  | [r] => r
  | r :: rest => alt r (altOf rest)

/-- Whether the expression matches the empty text at this place. -/
def nullable (p : Place) : Regex → Bool
  | empty => true
  | chars _ => false
  | look l => l.holds p
  | cat a b => a.nullable p && b.nullable p
  | alt a b => a.nullable p || b.nullable p
  | rep r min _ => min == 0 || r.nullable p

/-- `a` and then `b`, where an empty `a` is left out. -/
def followedBy (a b : Regex) : Regex :=
  match a with
  | empty => b
  | _ => cat a b

/-- What may follow once the expression, begun at the place `p`, has read `c`, the
character after that place. In a repetition, rounds that match the empty text at
`p` count as done: they can make up any number that is still asked for. -/
def after (p : Place) (c : Char) : Regex → List Regex
  | empty => []
  | look _ => []
  | chars set => if set.mem c then [empty] else []
  | alt a b => a.after p c ++ b.after p c
  | cat a b =>
    (a.after p c).map (followedBy · b) ++ if a.nullable p then b.after p c else []
  | rep r min max =>
    if max == some 0 then []
    else
      let more := rep r (if r.nullable p then 0 else min - 1) (max.map (· - 1))
      (r.after p c).map (followedBy · more)

/-- Puts an expression in front of a list that does not have it yet. -/
def addNew (r : Regex) (rs : List Regex) : List Regex :=
  if rs.contains r then rs else r :: rs

/-- Everything that may follow once one of the expressions has read `c`. -/
def afterAny (p : Place) (c : Char) (rs : List Regex) : List Regex :=
  rs.foldr (fun r acc => (r.after p c).foldr addNew acc) []

/-- Whether one of the expressions in progress, or `r` begun here or later, comes to a match
in the rest of the text. -/
def searchFrom (r : Regex) (before : Option Char) (inProgress : List Regex) : List Char → Bool
  | [] => (addNew r inProgress).any (nullable ⟨before, none⟩)
  | c :: rest =>
    let here := addNew r inProgress
    let place : Place := ⟨before, some c⟩
    here.any (nullable place) || searchFrom r (some c) (afterAny place c here) rest

def search (r : Regex) (text : List Char) : Bool := searchFrom r none [] text

end Regex

end Gapfill.Pattern
