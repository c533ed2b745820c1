import Gapfill.Pattern.Escape

/-!
# Bracket sets

Reading a set in brackets. Sets may be nested and joined by operators, which all bind alike and
to the left; the sets that are open stand on a stack of frames.
-/

namespace Gapfill.Pattern

/-- One of the sets `\d`, `\s`, `\w`, or the complement of one for a capital letter. -/
def classSet? (f : Flags) (letter : Char) : Option CharSet :=
  let base : CharSet :=
    match letter.toLower with
    | 'd' => if f.unicode then .digit else .asciiDigit
    | 's' => if f.unicode then .space else .asciiSpace
    | _ => f.word
  f.admit? (if letter.isUpper then .compl base else base)

/-- The characters that have the property, or those that do not. -/
def propertySet? (f : Flags) (p : Unicode.Property) (negated : Bool) : Option CharSet :=
  if !f.unicode then none
  else
    let set := f.close (.property p)
    some (if negated then .compl set else set)

/-- A character that stands in a set for itself; ASCII sets have no other. -/
def setLiteral? (f : Flags) (c : Char) : Option CharSet :=
  if !f.unicode && 0x80 ≤ c.toNat then none else some (.single c)

/-- A part of a set with the depth of what is nested in it. -/
structure SetPiece where
  set : CharSet
  depth : Nat

/-- A part of a set in which nothing is nested. -/
def SetPiece.flat (s : CharSet) : SetPiece := ⟨s, 0⟩

/-- The operations between two sets. -/
inductive SetOp where
  | inter
  | diff
  | symmDiff

def SetOp.apply : SetOp → CharSet → CharSet → CharSet
  | inter => .inter
  | diff => .diff
  | symmDiff => .symmDiff

/-- An open bracket: whether it negates, the operation with its left side, if there was one, and
the parts read since, last first. -/
structure SetFrame where
  negated : Bool
  left : Option (SetOp × SetPiece)
  parts : List SetPiece

namespace SetFrame

/-- The parts since the last operation as one. -/
def joined (frame : SetFrame) : SetPiece :=
  match frame.parts with
  | [] => .flat .none
  | [part] => part
  | parts => ⟨.unionOf (parts.reverse.map (·.set)), 1 + (parts.map (·.depth)).foldl max 0⟩

def total (f : Flags) (frame : SetFrame) : SetPiece :=
  let right := frame.joined
  match frame.left with
  | none => right
  | some (op, left) =>
    ⟨op.apply (f.close left.set) (f.close right.set), 1 + max left.depth right.depth⟩

/-- The frame after an operation sign. -/
def operate (f : Flags) (frame : SetFrame) (op : SetOp) : SetFrame :=
  ⟨frame.negated, some (op, frame.total f), []⟩

def push (frame : SetFrame) (part : SetPiece) : SetFrame :=
  { frame with parts := part :: frame.parts }

def close? (f : Flags) (frame : SetFrame) : Option SetPiece :=
  let whole := frame.total f
  let set := f.close whole.set
  (f.admit? (if frame.negated then .compl set else set)).map fun set => ⟨set, whole.depth + 1⟩

end SetFrame

/-- Reads the hyphens right after an opening bracket, which stand for themselves. -/
def readHyphens (f : Flags) : Nat → SetFrame → List Char → SetFrame × List Char
  | fuel + 1, frame, '-' :: rest =>
    readHyphens f fuel (frame.push (.flat (.single '-'))) (f.skip rest)
  | _, frame, s => (frame, s)

/-- Reads the start of a bracket: its negation, and the hyphens or the closing bracket that stand
for themselves there. The text begins after the bracket. -/
def openSet (f : Flags) (s : List Char) : SetFrame × List Char :=
  let (negated, s) :=
    match f.skip s with
    | '^' :: rest => (true, f.skip rest)
    | s => (false, s)
  let (frame, s) := readHyphens f s.length ⟨negated, none, []⟩ s
  match frame.parts, s with
  | [], ']' :: rest => (frame.push (.flat (.single ']')), f.skip rest)
  | _, s => (frame, s)

/-- Reads a set named between `[:` and `:]`; the text begins after the first bracket. -/
def readNamedSet (f : Flags) (s : List Char) : Option (Option CharSet × List Char) :=
  match s with
  | ':' :: rest =>
    let (negated, rest) :=
      match rest with
      | '^' :: rest => (true, rest)
      | _ => (false, rest)
    let name := rest.takeWhile (· != ':')
    match rest.dropWhile (· != ':') with
    | ':' :: ']' :: rest =>
      (CharSet.ofAsciiName? name).map fun named =>
        let set := f.close named
        (f.admit? (if negated then .compl set else set), rest)
    | _ => none
  | _ => none

/-- One end of a range, or a part of its own. -/
inductive SetItem where
  | char (c : Char)
  | set (s : CharSet)

def readSetItem (f : Flags) : List Char → Option (SetItem × List Char)
  | [] => none
  | '\\' :: rest =>
    match readEscape f rest with
    | some (.literal c, rest) => some (.char c, rest)
    | some (.byte c, rest) => some (.char c, rest)
    | some (.class letter, rest) => (classSet? f letter).map fun s => (.set s, rest)
    | some (.property p negated, rest) => (propertySet? f p negated).map fun s => (.set s, rest)
    | _ => none
  | c :: rest => some (.char c, rest)

/-- The first character that is not blank, where blanks do not count; a comment is not passed over,
but for its sign. -/
def peekPast (f : Flags) (s : List Char) : Option Char :=
  if f.skipBlanks then
    match s.dropWhile isBlank with
    | '#' :: rest =>
      match rest.dropWhile isBlank with
      | c :: _ => some c
      | [] => s.head?
    | c :: _ => some c
    | [] => s.head?
  else s.head?

def readSetPart (f : Flags) (s : List Char) : Option (SetPiece × List Char) :=
  match readSetItem f s with
  | none => none
  | some (first, rest) =>
    let alone : List Char → Option (SetPiece × List Char) := fun rest =>
      match first with
      | .char c => (setLiteral? f c).map fun set => (.flat set, rest)
      | .set set => some (.flat set, rest)
    match f.skip rest with
    | [] => none
    | '-' :: rest =>
      if peekPast f rest == some ']' || peekPast f rest == some '-' then alone ('-' :: rest)
      else
        match readSetItem f (f.skip rest) with
        | some (.char hi, rest) =>
          match first with
          | .char lo =>
            if lo ≤ hi && (setLiteral? f hi).isSome then some (.flat (.range lo hi), rest)
            else none
          | .set _ => none
        | _ => none
    | rest => alone rest

/-- Reads a bracket to its end. `outer` holds the brackets around the current one. -/
def readSet (f : Flags) : Nat → SetFrame → List SetFrame → List Char → Option (SetPiece × List Char)
  | 0, _, _, _ => none
  | fuel + 1, frame, outer, s =>
    match f.skip s with
    | [] => none
    | '[' :: rest =>
      match readNamedSet f rest with
      | some (some set, rest) => readSet f fuel (frame.push (.flat set)) outer rest
      | some (none, _) => none
      | none =>
        let (inner, rest) := openSet f rest
        readSet f fuel inner (frame :: outer) rest
    | ']' :: rest =>
      match frame.close? f, outer with
      | none, _ => none
      | some piece, [] => some (piece, rest)
      | some piece, around :: outer => readSet f fuel (around.push piece) outer rest
    | '&' :: '&' :: rest => readSet f fuel (frame.operate f .inter) outer rest
    | '-' :: '-' :: rest => readSet f fuel (frame.operate f .diff) outer rest
    | '~' :: '~' :: rest => readSet f fuel (frame.operate f .symmDiff) outer rest
    | s =>
      match readSetPart f s with
      | some (part, rest) => readSet f fuel (frame.push part) outer rest
      | none => none

end Gapfill.Pattern
