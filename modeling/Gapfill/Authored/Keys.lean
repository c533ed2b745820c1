import Gapfill.Authored.Blocks

/-!
# Key lines

After its blocks a field has lines `key=value`. A key may come again, but no key may come after
one that stands behind it in the order of the flavor. Every line is judged, and of two values
for one key the later counts.
-/

namespace Gapfill

/-! ## Values -/

def isNonzeroDigit (c : Char) : Bool := c.isDigit && c != '0'

/-- Whether a text denotes points: a positive decimal number, whose first place behind the point is
not zero if there are only zeros before it. -/
def isPointsText (value : List Char) : Bool :=
  let whole := value.takeWhile Char.isDigit
  !whole.isEmpty &&
    match value.dropWhile Char.isDigit with
    | [] => whole.any isNonzeroDigit
    | '.' :: places =>
      !places.isEmpty && places.all Char.isDigit &&
        (whole.any isNonzeroDigit || places.head?.any isNonzeroDigit)
    | _ => false

def readPoints (value : List Char) : Option Binary64 :=
  if isPointsText value then
    let whole := value.takeWhile Char.isDigit
    let places := (value.dropWhile Char.isDigit).drop 1
    let points := Binary64.ofDigits false whole places 0
    if Binary64.lt 0 points then some points else none
  else none

def maxSize : Nat := 0xffffffff

def readSize (value : List Char) : Option Nat :=
  if value.all Char.isDigit && value.any isNonzeroDigit && ofDecimalDigits value ≤ maxSize then
    some (ofDecimalDigits value)
  else none

/-- Puts a newline for `\n` and a tab for `\t`. -/
def expandEscapes : List Char → List Char
  | '\\' :: 'n' :: rest => '\n' :: expandEscapes rest
  | '\\' :: 't' :: rest => '\t' :: expandEscapes rest
  | c :: rest => c :: expandEscapes rest
  | [] => []

/-- The separator that a text denotes; without any it is a newline. -/
def readSeparator (value : List Char) : String :=
  match expandEscapes value with
  | [] => "\n"
  | text => String.ofList text

/-! ## Lines -/

/-- A small letter of ASCII. -/
def isKeyChar (c : Char) : Bool := 'a' ≤ c && c ≤ 'z'

/-- Reads a line of a key: its name and its value. -/
def readKeyLine (line : List Char) : Option (String × List Char) :=
  let name := line.takeWhile isKeyChar
  match line.dropWhile isKeyChar with
  | '=' :: value => if name.isEmpty then none else some (String.ofList name, value)
  | _ => none

/-- Gives a key its value in the field, unless it denotes none. -/
def Field.setKey (field : Field) (key : Key) (value : List Char) : Except Problem Field :=
  let trimmed := trim value
  let text := String.ofList trimmed
  match key with
  | .separator => .ok { field with separator := readSeparator value }
  | .points =>
    match readPoints trimmed with
    | some points => .ok { field with points }
    | none => .error (.invalidPoints text)
  | .size =>
    match readSize trimmed with
    | some size => .ok { field with size }
    | none => .error (.invalidSize text)
  | .feedback => .ok { field with feedback := some text }
  | .comment => .ok { field with comment := some text }

/-- What has been read of the keys: the field so far and the keys that may still come. -/
structure KeysState where
  field : Field
  allowed : List Key

/-- The keys of a flavor, as a message lists them. -/
def Flavor.keyNames (flavor : Flavor) : String := ", ".intercalate (flavor.keys.map Key.name)

/-- Judges one line, which begins after `pos` bytes. -/
def KeysState.readLine (flavor : Flavor) (state : KeysState) (pos : Nat) (line : List Char) :
    KeysState × List Diagnostic :=
  if isBlankText line then (state, [])
  else
    match readKeyLine line with
    | none => (state, [.at (.illegalLine (String.ofList line)) pos])
    | some (name, value) =>
      match Key.ofName? name with
      | some key =>
        if flavor.keys.contains key then
          let late := !state.allowed.contains key
          let allowed := if late then state.allowed else state.allowed.dropWhile (· != key)
          let order := if late then [.at (.keyOrder name flavor.keyNames) pos] else []
          match state.field.setKey key value with
          | .ok field => (⟨field, allowed⟩, order)
          | .error problem => (⟨state.field, allowed⟩, order ++ [.at problem pos])
        else (state, [.at (.unknownKey name) pos])
      | none => (state, [.at (.unknownKey name) pos])

/-- Judges the lines one after the other; the first begins after `pos` bytes. -/
def KeysState.readLines (flavor : Flavor) (state : KeysState) (pos : Nat) :
    List (List Char) → KeysState × List Diagnostic
  | [] => (state, [])
  | line :: rest =>
    let (state, here) := state.readLine flavor pos line
    let (state, later) := state.readLines flavor (pos + utf8Length line + 1) rest
    (state, here ++ later)

/-- Reads the text of the keys, which begins after `pos` bytes. -/
def readKeys (flavor : Flavor) (field : Field) (pos : Nat) (text : List Char) :
    Field × List Diagnostic :=
  let (state, diagnostics) := KeysState.readLines flavor ⟨field, flavor.keys⟩ pos (splitLines text)
  (state.field, diagnostics)

end Gapfill
