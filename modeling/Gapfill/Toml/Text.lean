import Gapfill.Toml.Scalar

/-!
# Strings of a TOML document

There are four forms: on one line or on several, with escapes or without. A line end in a string is
always a newline, however the document ends its lines.
-/

namespace Gapfill.Toml

/-- A character that may stand in a comment or a string: all but control characters, tabs apart. -/
def isText (c : Char) : Bool := c == '\t' || (' ' ≤ c && c != '\x7f')

def isSpace (c : Char) : Bool := c == ' ' || c == '\t'

/-- What comes after a line end, if the text begins with one. -/
def afterNewline? : List Char → Option (List Char)
  | '\n' :: rest => some rest
  | '\r' :: '\n' :: rest => some rest
  | _ => none

/-- Reads a character given by so many hexadecimal digits. -/
def readCodePoint : Nat → Nat → List Char → Option (Char × List Char)
  | 0, n, s => if n < 0xd800 || (0xe000 ≤ n && n < 0x110000) then some (Char.ofNat n, s) else none
  | digits + 1, n, c :: rest =>
    if isHexDigit c then readCodePoint digits (n * 16 + digitValue c) rest else none
  | _ + 1, _, [] => none

def readEscape : List Char → Option (Char × List Char)
  | 'b' :: rest => some ('\x08', rest)
  | 't' :: rest => some ('\t', rest)
  | 'n' :: rest => some ('\n', rest)
  | 'f' :: rest => some ('\x0c', rest)
  | 'r' :: rest => some ('\r', rest)
  | '"' :: rest => some ('"', rest)
  | '\\' :: rest => some ('\\', rest)
  | 'u' :: rest => readCodePoint 4 0 rest
  | 'U' :: rest => readCodePoint 8 0 rest
  | _ => none

/-- Reads the rest of a string on one line with escapes. -/
def readBasic : Nat → List Char → Option (List Char × List Char)
  | 0, _ => none
  | _ + 1, [] => none
  | _ + 1, '"' :: rest => some ([], rest)
  | fuel + 1, '\\' :: rest =>
    match readEscape rest with
    | some (c, rest) => (readBasic fuel rest).map fun (text, after) => (c :: text, after)
    | none => none
  | fuel + 1, c :: rest =>
    if isText c then (readBasic fuel rest).map fun (text, after) => (c :: text, after) else none

/-- Reads the rest of a string on one line without escapes. -/
def readLiteral : List Char → Option (List Char × List Char)
  | [] => none
  | '\'' :: rest => some ([], rest)
  | c :: rest =>
    if isText c then (readLiteral rest).map fun (text, after) => (c :: text, after) else none

/-- Passes over the blanks and line ends after a backslash at the end of a line. -/
def dropContinuation (s : List Char) : Option (List Char) :=
  match afterNewline? (s.dropWhile isSpace) with
  | none => none
  | some rest => some (go rest)
where
  go : List Char → List Char
    | '\n' :: rest => go rest
    | '\r' :: '\n' :: rest => go rest
    | c :: rest => if isSpace c then go rest else c :: rest
    | [] => []

/-- Reads the rest of a string on several lines, up to three quotes, before which two more may
stand for themselves. `escapes` says whether a backslash is special. -/
def readLines (quote : Char) (escapes : Bool) : Nat → List Char → Option (List Char × List Char)
  | 0, _ => none
  | _ + 1, [] => none
  | fuel + 1, c :: rest =>
    if c == quote then
      let quotes := (c :: rest).takeWhile (· == quote)
      let after := (c :: rest).dropWhile (· == quote)
      if quotes.length < 3 then
        (readLines quote escapes fuel after).map fun (text, after) => (quotes ++ text, after)
      else if quotes.length < 6 then some (quotes.drop 3, after)
      else none
    else if escapes && c == '\\' then
      match dropContinuation rest with
      | some rest => readLines quote escapes fuel rest
      | none =>
        match readEscape rest with
        | some (c, rest) =>
          (readLines quote escapes fuel rest).map fun (text, after) => (c :: text, after)
        | none => none
    else
      match afterNewline? (c :: rest) with
      | some rest =>
        (readLines quote escapes fuel rest).map fun (text, after) => ('\n' :: text, after)
      | none =>
        if isText c then
          (readLines quote escapes fuel rest).map fun (text, after) => (c :: text, after)
        else none

def dropFirstNewline (s : List Char) : List Char := (afterNewline? s).getD s

/-- Reads a string of any form; `none` if the text begins otherwise or the string is faulty. -/
def readString (s : List Char) : Option (List Char × List Char) :=
  match s with
  | '"' :: '"' :: '"' :: rest => readLines '"' true (s.length + 1) (dropFirstNewline rest)
  | '\'' :: '\'' :: '\'' :: rest => readLines '\'' false (s.length + 1) (dropFirstNewline rest)
  | '"' :: rest => readBasic (s.length + 1) rest
  | '\'' :: rest => readLiteral rest
  | _ => none

end Gapfill.Toml
