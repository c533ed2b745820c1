import Gapfill.Pattern.BracketSet
import Gapfill.Pattern.Size

/-!
# Reading a pattern

`parse` turns the text of a pattern into a regular expression. The reader keeps
a stack of the groups that are open and works from left to right: `Reader.step`
reads one item, and what was read before it is only looked at where a repetition
takes the item before it or a bracket closes a group. The result is `none` for a text that is no
pattern.

Nothing in a pattern may be nested too deeply; an item is kept together with its
depth (`Piece`), counted in groups, repetitions, bracket sets, and sequences and
alternatives of more than one part.
-/

namespace Gapfill.Pattern

/-! ## Groups and repetitions -/

/-- An expression with the depth of what is nested in it. -/
structure Piece where
  regex : Regex
  depth : Nat

/-- An expression in which nothing is nested. -/
def Piece.flat (r : Regex) : Piece := ⟨r, 0⟩

/-- An item of a sequence: an expression, or a change of the switches. -/
inductive Item where
  | piece (p : Piece)
  | switch

namespace Item

def depth : Item → Nat
  | piece p => p.depth
  | switch => 0

def regex? : Item → Option Regex
  | piece p => some p.regex
  | switch => none

end Item

/-- An open group: the alternatives that are complete and the items of the current one, both last
first. -/
structure Frame where
  branches : List Piece
  items : List Item

namespace Frame

def new : Frame := ⟨[], []⟩

def branch (frame : Frame) : Piece :=
  let depth :=
    match frame.items with
    | [] => 0
    | [item] => item.depth
    | items => 1 + (items.map Item.depth).foldl max 0
  ⟨.catOf (frame.items.reverse.filterMap Item.regex?), depth⟩

def total (frame : Frame) : Piece :=
  match frame.branches with
  | [] => frame.branch
  | branches =>
    let all := frame.branch :: branches
    ⟨.altOf (all.reverse.map (·.regex)), 1 + (all.map (·.depth)).foldl max 0⟩

def push (frame : Frame) (item : Item) : Frame :=
  { frame with items := item :: frame.items }

/-- Repeats the last item, if there is one that can be repeated. -/
def repeatLast? (frame : Frame) (min : Nat) (max : Option Nat) : Option Frame :=
  match frame.items with
  | .piece p :: items => some ⟨frame.branches, .piece ⟨.rep p.regex min max, p.depth + 1⟩ :: items⟩
  | _ => none

end Frame

/-- What has been read of a pattern: the innermost open group, the groups around it with the
switches to go back to, the switches that hold, and the names given to groups. -/
structure Reader where
  frame : Frame
  outer : List (Flags × Frame)
  flags : Flags
  names : List (List Char)

namespace Reader

def push (r : Reader) (item : Item) : Reader := { r with frame := r.frame.push item }

def openGroup (r : Reader) (flags : Flags) : Reader :=
  { r with frame := .new, outer := (r.flags, r.frame) :: r.outer, flags }

def closeGroup? (r : Reader) : Option Reader :=
  match r.outer with
  | [] => none
  | (flags, around) :: outer =>
    let inner := r.frame.total
    some ⟨around.push (.piece ⟨inner.regex, inner.depth + 1⟩), outer, flags, r.names⟩

end Reader

/-- A character that the name of a group may have. -/
def isNameChar (c : Char) : Bool :=
  c == '_' || c == '.' || c == '[' || c == ']' || Unicode.isAlphanumeric c

/-- Reads the name of a group up to its closing bracket. -/
def readName (s : List Char) : Option (List Char × List Char) :=
  let name := s.takeWhile (· != '>')
  match name, s.dropWhile (· != '>') with
  | c :: _, _ :: rest =>
    if (c == '_' || Unicode.isAlphabetic c) && name.all isNameChar then some (name, rest) else none
  | _, _ => none

/-- Reads switches after `(?`, up to a colon or a closing bracket. `seen` lists the signs so far,
`on` says whether letters turn a switch on, and `waits` that a sign of negation waits for a letter.
The results are the switches, whether there were no signs, and the rest from the colon or bracket
on. -/
def readSwitches (seen : List Char) (on waits : Bool) (f : Flags) :
    List Char → Option (Flags × Bool × List Char)
  | [] => none
  | c :: rest =>
    if c == ':' || c == ')' then
      if waits then none else some (f, seen.isEmpty, c :: rest)
    else if seen.contains c then none
    else if c == '-' then readSwitches (c :: seen) false true f rest
    else
      match f.set? c on with
      | some f => readSwitches (c :: seen) on false f rest
      | none => none

/-- Reads the start of a group; the text begins after the parenthesis. -/
def readGroup (r : Reader) (s : List Char) : Option (Reader × List Char) :=
  let named : List Char → Option (Reader × List Char) := fun s =>
    match readName s with
    | some (name, rest) =>
      if r.names.contains name then none
      else some ({ r.openGroup r.flags with names := name :: r.names }, rest)
    | none => none
  match r.flags.skip s with
  | '?' :: 'P' :: '<' :: rest => named rest
  | '?' :: '<' :: '=' :: _ => none
  | '?' :: '<' :: '!' :: _ => none
  | '?' :: '<' :: rest => named rest
  | '?' :: rest =>
    match readSwitches [] true false r.flags rest with
    | some (flags, _, ':' :: rest) => some (r.openGroup flags, rest)
    | some (_, true, _) => none
    | some (flags, false, _ :: rest) => some ({ r.push .switch with flags }, rest)
    | _ => none
  | s => some (r.openGroup r.flags, s)

/-- The greatest count in a repetition. -/
def maxCount : Nat := 0xffffffff

def readCount (f : Flags) (s : List Char) : Option (Nat × List Char) :=
  let (digits, rest) := takeRun f Char.isDigit s.length (s.dropWhile isBlank)
  let n := ofDecimalDigits digits
  if digits.isEmpty || maxCount < n then none
  else
    let after := rest.dropWhile isBlank
    some (n, if after.length < rest.length then f.skip after else after)

/-- Reads the bounds of a repetition; the text begins after the brace. -/
def readBounds (f : Flags) (s : List Char) : Option (Nat × Option Nat × List Char) :=
  match readCount f (f.skip s) with
  | none => none
  | some (low, ',' :: rest) =>
    match f.skip rest with
    | '\x7d' :: rest => some (low, none, rest)
    | rest =>
      match readCount f rest with
      | some (high, '\x7d' :: rest) => if low ≤ high then some (low, some high, rest) else none
      | _ => none
  | some (low, '\x7d' :: rest) => some (low, some low, rest)
  | some _ => none

/-- Drops the sign of a lazy repetition. -/
def dropLazy : List Char → List Char
  | '?' :: rest => rest
  | s => s

/-! ## Patterns -/

def literal (f : Flags) (c : Char) : Regex := .chars (f.close (.single c))

def dot? (f : Flags) : Option Regex :=
  if !f.unicode then none
  else if f.dotNewline then some (.chars .all)
  else if f.crlf then some (.chars (.compl (.union (.single '\r') (.single '\n'))))
  else some (.chars (.compl (.single '\n')))

def startOf (f : Flags) : Look :=
  if f.multiLine then (if f.crlf then .crlfLineStart else .lineStart) else .textStart

def endOf (f : Flags) : Look :=
  if f.multiLine then (if f.crlf then .crlfLineEnd else .lineEnd) else .textEnd

/-- What an escape stands for outside of sets. -/
def escapeRegex? (f : Flags) : Escape → Option Regex
  | .literal c => some (literal f c)
  | .byte c => if !f.unicode && 0x80 ≤ c.toNat then none else some (literal f c)
  | .class letter => (classSet? f letter).map .chars
  | .property p negated => (propertySet? f p negated).map .chars
  | .textStart => some (.look .textStart)
  | .textEnd => some (.look .textEnd)
  | .wordBoundary => some (.look (.wordBoundary f.word))
  | .noWordBoundary => some (.look (.noWordBoundary f.word))
  | .wordStart => some (.look (.wordStart f.word))
  | .wordEnd => some (.look (.wordEnd f.word))
  | .wordStartHalf => some (.look (.wordStartHalf f.word))
  | .wordEndHalf => some (.look (.wordEndHalf f.word))

/-- Reads one item, which begins with the character `c`. -/
def Reader.step (r : Reader) (c : Char) (rest : List Char) : Option (Reader × List Char) :=
  let f := r.flags
  let add : Regex → Reader := fun regex => r.push (.piece (.flat regex))
  let repeated : Nat → Option Nat → List Char → Option (Reader × List Char) := fun min max rest =>
    (r.frame.repeatLast? min max).map fun frame => ({ r with frame }, dropLazy rest)
  match c with
  | '(' => readGroup r rest
  | ')' => r.closeGroup?.map (·, rest)
  | '|' => some ({ r with frame := ⟨r.frame.branch :: r.frame.branches, []⟩ }, rest)
  | '[' =>
    let (frame, rest) := openSet f rest
    (readSet f (rest.length + 1) frame [] rest).map fun (piece, rest) =>
      (r.push (.piece ⟨.chars piece.set, piece.depth⟩), rest)
  | '?' => repeated 0 (some 1) rest
  | '*' => repeated 0 none rest
  | '+' => repeated 1 none rest
  | '\x7b' =>
    match readBounds f rest with
    | some (min, max, rest) => repeated min max (f.skip rest)
    | none => none
  | '.' => (dot? f).map fun regex => (add regex, rest)
  | '^' => some (add (.look (startOf f)), rest)
  | '$' => some (add (.look (endOf f)), rest)
  | '\\' =>
    match readEscape f rest with
    | some (escape, rest) => (escapeRegex? f escape).map fun regex => (add regex, rest)
    | none => none
  | c => some (add (literal f c), rest)

/-- Reads item after item to the end of the text. -/
def Reader.run : Nat → Reader → List Char → Option Reader
  | 0, _, _ => none
  | fuel + 1, r, s =>
    match r.flags.skip s with
    | [] => some r
    | c :: rest =>
      match r.step c rest with
      | some (r, rest) => Reader.run fuel r rest
      | none => none

/-- How deeply the items of a pattern may be nested. -/
def maxDepth : Nat := 250

/-- The regular expression that the text of a pattern denotes. -/
def parse (ignoreCase dotNewline : Bool) (text : List Char) : Option Regex :=
  match Reader.run (text.length + 1) ⟨.new, [], .initial ignoreCase dotNewline, []⟩ text with
  | some r =>
    let whole := r.frame.total
    if r.outer.isEmpty && whole.depth ≤ maxDepth then some whole.regex else none
  | none => none

inductive Refusal where
  /-- The text is no pattern. -/
  | malformed
  /-- The program for the pattern takes more bytes than allowed. -/
  | tooBig (limit : Nat)
deriving DecidableEq

def Refusal.message : Refusal → String
  | malformed => "regex parse error"
  | tooBig limit => "Compiled regex exceeds size limit of " ++ toString limit ++ " bytes."

/-- The regular expression that a pattern denotes, if its program keeps within a limit. -/
def compile (ignoreCase dotNewline : Bool) (limit : Nat) (text : List Char) :
    Except Refusal Regex :=
  match parse ignoreCase dotNewline text with
  | none => .error .malformed
  | some regex => if limit < regex.size then .error (.tooBig limit) else .ok regex

end Gapfill.Pattern
