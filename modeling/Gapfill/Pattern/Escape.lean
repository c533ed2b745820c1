import Gapfill.Pattern.Flags

/-!
# Escapes

What a backslash and the characters behind it stand for, in a pattern or in a bracket set: a
character for itself or by its code point, a class, a property, or an assertion about the place.
-/

namespace Gapfill.Pattern

/-- The characters that mean something in a pattern. -/
def isMeta (c : Char) : Bool :=
  c ∈ ['\\', '.', '+', '*', '?', '(', ')', '|', '[', ']', '\x7b', '\x7d', '^', '$', '#', '&',
    '-', '~']

def isEscapable (c : Char) : Bool :=
  isMeta c || (c.toNat < 0x80 && !c.isAlphanum && c != '<' && c != '>')

/-- What a backslash and the characters after it stand for. -/
inductive Escape where
  | literal (c : Char)
  /-- A character given by two hexadecimal digits. -/
  | byte (c : Char)
  /-- One of the sets `\d`, `\s` and `\w`, or of their complements. -/
  | class (letter : Char)
  | property (p : Unicode.Property) (negated : Bool)
  | textStart
  | textEnd
  | wordBoundary
  | noWordBoundary
  | wordStart
  | wordEnd
  | wordStartHalf
  | wordEndHalf

/-- Reads the digits of `\x`, `\u` or `\U`, which has `digits` of them unless they stand in
braces. -/
def readCode (f : Flags) (digits : Nat) (s : List Char) : Option (Escape × List Char) :=
  match f.skip s with
  | [] => none
  | '\x7b' :: rest =>
    let (run, after) := takeRun f isHexDigit s.length (f.skip rest)
    match after with
    | '\x7d' :: rest =>
      if run.isEmpty then none
      else (charOf? (ofDigitsIn 16 run)).map fun c => (.literal c, f.skip rest)
    | _ => none
  | s =>
    match takeExactly f isHexDigit digits s with
    | none => none
    | some (run, rest) =>
      (charOf? (ofDigitsIn 16 run)).map fun c =>
        (if digits == 2 then .byte c else .literal c, rest)

/-- Cuts a text at the first place where `mark` stands. -/
def cutAt? (mark : List Char) : List Char → Option (List Char × List Char)
  | [] => none
  | c :: rest =>
    match after? mark (c :: rest) with
    | some after => some ([], after)
    | none => (cutAt? mark rest).map fun (before, after) => (c :: before, after)

/-- The property that stands in braces: a name, or a name and a value. The flag says that
the value is the one not to have. -/
def propertyIn? (text : List Char) : Option (Unicode.Property × Bool) :=
  match cutAt? ['!', '='] text with
  | some (name, value) => (Unicode.Property.ofNameValue? name value).map (·, true)
  | none =>
    match cutAt? [':'] text with
    | some (name, value) => (Unicode.Property.ofNameValue? name value).map (·, false)
    | none =>
      match cutAt? ['='] text with
      | some (name, value) => (Unicode.Property.ofNameValue? name value).map (·, false)
      | none => (Unicode.Property.ofName? text).map (·, false)

/-- Reads the name of a property after `\p` or `\P`. -/
def readProperty (f : Flags) (negated : Bool) (s : List Char) : Option (Escape × List Char) :=
  match f.skip s with
  | [] => none
  | '\x7b' :: rest =>
    let (name, after) := takeRun f (· != '\x7d') s.length (f.skip rest)
    match after with
    | '\x7d' :: rest =>
      (propertyIn? name).map fun (p, unequal) => (.property p (negated != unequal), rest)
    | _ => none
  | '\\' :: _ => none
  | c :: rest => (Unicode.Property.ofName? [c]).map fun p => (.property p negated, rest)

/-- Reads what may follow `\b` in braces: one of the four assertions about one side of a word.
Braces that begin otherwise are a repetition and are left alone. -/
def readBoundary (f : Flags) (s : List Char) : Option (Escape × List Char) :=
  let isNamePart : Char → Bool := fun c => c.isAlpha || c == '-'
  match s with
  | '\x7b' :: rest =>
    match f.skip rest with
    | [] => none
    | c :: rest =>
      if isNamePart c then
        let (name, after) := takeRun f isNamePart s.length (c :: rest)
        match after with
        | '\x7d' :: rest =>
          match String.ofList name with
          | "start" => some (.wordStart, rest)
          | "end" => some (.wordEnd, rest)
          | "start-half" => some (.wordStartHalf, rest)
          | "end-half" => some (.wordEndHalf, rest)
          | _ => none
        | _ => none
      else some (.wordBoundary, s)
  | _ => some (.wordBoundary, s)

/-- Reads an escape; the text begins after the backslash. -/
def readEscape (f : Flags) : List Char → Option (Escape × List Char)
  | [] => none
  | 'x' :: rest => readCode f 2 rest
  | 'u' :: rest => readCode f 4 rest
  | 'U' :: rest => readCode f 8 rest
  | 'p' :: rest => readProperty f false rest
  | 'P' :: rest => readProperty f true rest
  | 'b' :: rest => readBoundary f rest
  | 'B' :: rest => some (.noWordBoundary, rest)
  | 'A' :: rest => some (.textStart, rest)
  | 'z' :: rest => some (.textEnd, rest)
  | '<' :: rest => some (.wordStart, rest)
  | '>' :: rest => some (.wordEnd, rest)
  | 'a' :: rest => some (.literal '\x07', rest)
  | 'f' :: rest => some (.literal '\x0c', rest)
  | 't' :: rest => some (.literal '\t', rest)
  | 'n' :: rest => some (.literal '\n', rest)
  | 'r' :: rest => some (.literal '\r', rest)
  | 'v' :: rest => some (.literal '\x0b', rest)
  | c :: rest =>
    if c ∈ ['d', 's', 'w', 'D', 'S', 'W'] then some (.class c, rest)
    else if isEscapable c then some (.literal c, rest)
    else none

end Gapfill.Pattern
