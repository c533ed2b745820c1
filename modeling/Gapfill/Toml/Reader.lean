import Gapfill.Toml.Text

/-!
# Keys, values and lines

The parts of a TOML document, as far as they do not depend on each other: dotted keys, values
with the arrays and tables in them, and the lines of the document. How the lines make one table
is told elsewhere.
-/

namespace Gapfill.Toml

/-! ## Space between parts -/

def dropSpaces (s : List Char) : List Char := s.dropWhile isSpace

/-- Drops spaces, line ends and comments. -/
def dropSpace : Nat → List Char → Option (List Char)
  | 0, s => some s
  | fuel + 1, s =>
    match dropSpaces s with
    | '#' :: rest => dropSpace fuel (rest.dropWhile isText)
    | s =>
      match afterNewline? s with
      | some rest => dropSpace fuel rest
      | none => some s

/-- What comes after the end of a line, before which spaces and a comment may stand. -/
def afterLine? (s : List Char) : Option (List Char) :=
  let s := dropSpaces s
  let s := match s with
    | '#' :: rest => rest.dropWhile isText
    | s => s
  match s with
  | [] => some []
  | s => afterNewline? s

/-! ## Keys -/

/-- A character of a key without quotes. -/
def isBareKey (c : Char) : Bool := c.isAlphanum || c == '_' || c == '-'

def readKeyPart (s : List Char) : Option (String × List Char) :=
  let text : Option (List Char × List Char) :=
    match s with
    | '"' :: rest => readBasic (s.length + 1) rest
    | '\'' :: rest => readLiteral rest
    | s =>
      let bare := s.takeWhile isBareKey
      if bare.isEmpty then none else some (bare, s.dropWhile isBareKey)
  text.map fun (text, rest) => (String.ofList text, rest)

/-- Reads a key of one or more parts with dots between them: the parts before the last one, the last
one, and the rest from the first character that is not blank. -/
def readKey : Nat → List Char → Option (List String × String × List Char)
  | 0, _ => none
  | fuel + 1, s =>
    match readKeyPart (dropSpaces s) with
    | none => none
    | some (part, rest) =>
      match dropSpaces rest with
      | '.' :: rest => (readKey fuel rest).map fun (path, last, rest) => (part :: path, last, rest)
      | rest => some ([], part, rest)

/-! ## Adding to a table -/

/-- Puts a value under a key, in place of the one that is there. -/
def setEntry (key : String) (value : Value) : Entries → Entries
  | [] => [(key, value)]
  | (k, v) :: rest => if k == key then (k, value) :: rest else (k, v) :: setEntry key value rest

/-- Adds a value under a key that is not there yet. -/
def addEntry (key : String) (value : Value) (entries : Entries) : Option Entries :=
  if (entries.lookup key).isSome then none else some (entries ++ [(key, value)])

/-- Adds a value under a dotted key. The tables on the way may only be ones that came about by
dotted keys, or, before the last, as a part of a header. `origin` is that of the table to add to.
-/
def addDotted (value : Value) (last : String) :
    Origin → List String → Entries → Option Entries
  | origin, [], entries => if origin == .implied then none else addEntry last value entries
  | _, part :: path, entries =>
    match entries.lookup part with
    | none =>
      (addDotted value last .dotted path []).map fun sub => entries ++ [(part, .table .dotted sub)]
    | some (.table origin sub) =>
      if origin == .dotted || origin == .implied then
        (addDotted value last origin path sub).map fun sub =>
          setEntry part (.table origin sub) entries
      else none
    | some (.array true items) =>
      match items.getLast?, path with
      | some (.table origin sub), _ :: _ =>
        (addDotted value last origin path sub).map fun sub =>
          setEntry part (.array true (items.dropLast ++ [.table origin sub])) entries
      | _, _ => none
    | some _ => none

/-! ## Values -/

def maxNesting : Nat := 80

mutual

/-- Reads a value in `depth` others. -/
def readValue : Nat → Nat → List Char → Option (Value × List Char)
  | 0, _, _ => none
  | fuel + 1, depth, s =>
    match s with
    | '"' :: _ => (readString s).map fun (text, rest) => (.string (String.ofList text), rest)
    | '\'' :: _ => (readString s).map fun (text, rest) => (.string (String.ofList text), rest)
    | '[' :: rest =>
      if maxNesting ≤ depth + 1 then none
      else (readItems fuel (depth + 1) rest).map fun (items, rest) => (.array false items, rest)
    | '\x7b' :: rest =>
      if maxNesting ≤ depth + 1 then none
      else
        match dropSpaces rest with
        | '\x7d' :: rest => some (.table .inline [], rest)
        | rest =>
          (readPairs fuel (depth + 1) [] rest).map fun (entries, rest) =>
            (.table .inline entries, rest)
    | s => readScalar s

/-- Reads the items of an array up to its closing bracket. -/
def readItems : Nat → Nat → List Char → Option (List Value × List Char)
  | 0, _, _ => none
  | fuel + 1, depth, s =>
    match dropSpace s.length s with
    | some (']' :: rest) => some ([], rest)
    | some s =>
      match readValue fuel depth s with
      | none => none
      | some (value, rest) =>
        match dropSpace rest.length rest with
        | some (',' :: rest) =>
          (readItems fuel depth rest).map fun (items, rest) => (value :: items, rest)
        | some (']' :: rest) => some ([value], rest)
        | _ => none
    | none => none

/-- Reads the pairs of a table in braces; `entries` are those before. -/
def readPairs : Nat → Nat → Entries → List Char → Option (Entries × List Char)
  | 0, _, _, _ => none
  | fuel + 1, depth, entries, s =>
    match readKey s.length s with
    | some (path, last, '=' :: rest) =>
      match readValue fuel depth (dropSpaces rest) with
      | none => none
      | some (value, rest) =>
        match addDotted value last .inline path entries with
        | none => none
        | some entries =>
          match dropSpaces rest with
          | ',' :: rest => readPairs fuel depth entries rest
          | '\x7d' :: rest => some (entries, rest)
          | _ => none
    | _ => none

end

/-! ## Lines -/

inductive Line where
  /-- The name of a table to which the next lines belong. -/
  | header (path : List String) (last : String)
  /-- The name of an array that gets a new table, to which the next lines belong. -/
  | item (path : List String) (last : String)
  | pair (path : List String) (last : String) (value : Value)

def readLine (s : List Char) : Option (Line × List Char) :=
  match s with
  | '[' :: '[' :: rest =>
    match readKey (s.length + 1) rest with
    | some (path, last, ']' :: ']' :: rest) => (afterLine? rest).map (.item path last, ·)
    | _ => none
  | '[' :: rest =>
    match readKey (s.length + 1) rest with
    | some (path, last, ']' :: rest) => (afterLine? rest).map (.header path last, ·)
    | _ => none
  | s =>
    match readKey (s.length + 1) s with
    | some (path, last, '=' :: rest) =>
      match readValue (s.length + 1) 0 (dropSpaces rest) with
      | some (value, rest) => (afterLine? rest).map (.pair path last value, ·)
      | none => none
    | _ => none

def readDocument : Nat → List Char → Option (List Line)
  | 0, _ => none
  | fuel + 1, s =>
    match dropSpace (s.length + 1) s with
    | none => none
    | some [] => some []
    | some s =>
      match readLine s with
      | some (line, rest) => (readDocument fuel rest).map (line :: ·)
      | none => none

end Gapfill.Toml
