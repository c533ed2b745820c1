import Gapfill.Json.Number
import Gapfill.Number.Digits

/-!
# Reading JSON

`Json.parse?` reads a text that consists of one value with white space around it.
-/

namespace Gapfill.Json

/-- White space between the parts of a text. -/
def isSpace (c : Char) : Bool := c == ' ' || c == '\t' || c == '\n' || c == '\r'

def skipSpace (s : List Char) : List Char := s.dropWhile isSpace

/-! ## Strings -/

/-- Reads four hexadecimal digits, a unit of UTF-16. -/
def readUnit : List Char → Option (Nat × List Char)
  | a :: b :: c :: d :: rest => (readHex [a, b, c, d]).map fun n => (n, rest)
  | _ => none

def isHighHalf (unit : Nat) : Bool := 0xd800 ≤ unit && unit < 0xdc00

def isLowHalf (unit : Nat) : Bool := 0xdc00 ≤ unit && unit < 0xe000

def joinHalves (high low : Nat) : Char :=
  Char.ofNat (0x10000 + (high - 0xd800) * 0x400 + (low - 0xdc00))

/-- Reads units of UTF-16 behind `\u`: one, or two that make a character together. A half alone is
no character. -/
def readEscapedUnits (s : List Char) : Option (Option Char × List Char) := do
  let (unit, rest) ← readUnit s
  if isHighHalf unit then
    match rest with
    | '\\' :: 'u' :: next =>
      let (low, rest) ← readUnit next
      return (if isLowHalf low then some (joinHalves unit low) else none, rest)
    | _ => return (none, rest)
  else return (if isLowHalf unit then none else some (Char.ofNat unit), rest)

/-- The character that a letter behind a backslash stands for. -/
def escaped? : Char → Option Char
  | '"' => some '"'
  | '\\' => some '\\'
  | '/' => some '/'
  | 'b' => some '\x08'
  | 'f' => some '\x0c'
  | 'n' => some '\n'
  | 'r' => some '\r'
  | 't' => some '\t'
  | _ => none

/-- Puts a character before a text, if both are there. -/
def consText (c : Option Char) (text : Option (List Char)) : Option (List Char) :=
  c.bind fun c => text.map (c :: ·)

/-- Reads a string behind its opening quote. It denotes no text if half a character is in it. -/
def readString : Nat → List Char → Option (Option (List Char) × List Char)
  | 0, _ => none
  | fuel + 1, s =>
    match s with
    | [] => none
    | '"' :: rest => some (some [], rest)
    | '\\' :: 'u' :: rest =>
      match readEscapedUnits rest with
      | none => none
      | some (c, rest) =>
        (readString fuel rest).map fun (text, rest) => (consText c text, rest)
    | '\\' :: letter :: rest =>
      match escaped? letter with
      | none => none
      | some c => (readString fuel rest).map fun (text, rest) => (text.map (c :: ·), rest)
    | c :: rest =>
      if c < ' ' || c == '\\' then none
      else (readString fuel rest).map fun (text, rest) => (text.map (c :: ·), rest)

/-! ## Values -/

/-- The object with these members, the names of which may denote no text. -/
def ofMembers (members : List (Option String × Json)) : Json :=
  match members.mapM fun (name, value) => name.map fun name => (name, value) with
  | some members => object members
  | none => broken

/-- Reads a word and gives the value that it stands for. -/
def readWord (word : String) (value : Json) (s : List Char) : Option (Json × List Char) :=
  let letters := word.toList
  if letters.isPrefixOf s then some (value, s.drop letters.length) else none

mutual

/-- Reads a value that begins right here. -/
def readValue : Nat → List Char → Option (Json × List Char)
  | 0, _ => none
  | fuel + 1, s =>
    match s with
    | 'n' :: _ => readWord "null" null s
    | 't' :: _ => readWord "true" (boolean true) s
    | 'f' :: _ => readWord "false" (boolean false) s
    | '"' :: rest =>
      (readString (rest.length + 1) rest).map fun (text, rest) =>
        match text with
        | some text => (string (String.ofList text), rest)
        | none => (broken, rest)
    | '[' :: rest =>
      match skipSpace rest with
      | ']' :: rest => some (array [], rest)
      | rest => (readItems fuel rest).map fun (items, rest) => (array items, rest)
    | '\x7b' :: rest =>
      match skipSpace rest with
      | '\x7d' :: rest => some (object [], rest)
      | rest => (readMembers fuel rest).map fun (members, rest) => (ofMembers members, rest)
    | s => readNumber s

/-- Reads the items of an array up to its closing bracket. -/
def readItems : Nat → List Char → Option (List Json × List Char)
  | 0, _ => none
  | fuel + 1, s =>
    match readValue fuel (skipSpace s) with
    | none => none
    | some (value, rest) =>
      match skipSpace rest with
      | ',' :: rest => (readItems fuel rest).map fun (items, rest) => (value :: items, rest)
      | ']' :: rest => some ([value], rest)
      | _ => none

/-- Reads the members of an object up to its closing brace. -/
def readMembers : Nat → List Char → Option (List (Option String × Json) × List Char)
  | 0, _ => none
  | fuel + 1, s =>
    match skipSpace s with
    | '"' :: rest =>
      match readString (rest.length + 1) rest with
      | none => none
      | some (name, rest) =>
        let name := name.map String.ofList
        match skipSpace rest with
        | ':' :: rest =>
          match readValue fuel (skipSpace rest) with
          | none => none
          | some (value, rest) =>
            match skipSpace rest with
            | ',' :: rest =>
              (readMembers fuel rest).map fun (members, rest) => ((name, value) :: members, rest)
            | '\x7d' :: rest => some ([(name, value)], rest)
            | _ => none
        | _ => none
    | _ => none

end

/-- The value that a text denotes. -/
def parse? (text : String) : Option Json :=
  let s := skipSpace text.toList
  match readValue (s.length + 1) s with
  | some (value, rest) => if (skipSpace rest).isEmpty then some value else none
  | none => none

end Gapfill.Json
