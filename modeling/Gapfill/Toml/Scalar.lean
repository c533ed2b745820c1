import Gapfill.Calendar
import Gapfill.Toml.Value

/-!
# Numbers, times and words

A scalar of a TOML document that is not a string. Each reader gives the value and the rest of
the text; whether something may follow right behind it is for the caller to say.
-/

namespace Gapfill.Toml

/-! ## Digits -/

/-- Reads digits, between two of which a single underscore may stand. `started` says that a
digit comes right before the text. -/
def readDigits (isDigit : Char → Bool) : Bool → List Char → List Char × List Char
  | started, c :: rest =>
    if isDigit c then
      let (digits, after) := readDigits isDigit true rest
      (c :: digits, after)
    else
      match started, c, rest with
      | true, '_', d :: rest' =>
        if isDigit d then
          let (digits, after) := readDigits isDigit true rest'
          (d :: digits, after)
        else ([], c :: rest)
      | _, _, _ => ([], c :: rest)
  | _, [] => ([], [])

/-- A digit of a base up to ten, or of base 16. -/
def isDigitOf (base : Nat) (c : Char) : Bool :=
  if base = 16 then isHexDigit c else '0' ≤ c && c.toNat < '0'.toNat + base

/-! ## Numbers -/

/-- Integers have 64 bits. -/
def inRange (n : Int) : Bool := -0x8000000000000000 ≤ n && n < 0x8000000000000000

def readBased (base : Nat) (s : List Char) : Option (Value × List Char) :=
  let (digits, rest) := readDigits (isDigitOf base) false s
  let n := ofDigitsIn base digits
  if digits.isEmpty || !inRange n then none else some (.integer n, rest)

/-- Reads the whole part of a decimal number: a zero, or digits that begin with another one. -/
def readWhole : List Char → Option (List Char × List Char)
  | '0' :: rest => some (['0'], rest)
  | s =>
    let (digits, rest) := readDigits Char.isDigit false s
    if digits.isEmpty then none else some (digits, rest)

def readPlaces : List Char → Option (Option (List Char) × List Char)
  | '.' :: rest =>
    let (digits, after) := readDigits Char.isDigit false rest
    if digits.isEmpty then none else some (some digits, after)
  | s => some (none, s)

def readPower (s : List Char) : Option (Option Int × List Char) :=
  match s with
  | e :: rest =>
    if e == 'e' || e == 'E' then
      let (negative, rest) := Binary64.readSign rest
      let (digits, after) := readDigits Char.isDigit false rest
      if digits.isEmpty then none
      else
        let n : Int := ofDecimalDigits digits
        some (some (if negative then -n else n), after)
    else some (none, s)
  | [] => some (none, s)

/-- Reads a decimal number after its sign. A float that is too great for a number is refused. -/
def readDecimal (negative : Bool) (s : List Char) : Option (Value × List Char) :=
  match readWhole s with
  | none => none
  | some (whole, rest) =>
    match readPlaces rest with
    | none => none
    | some (places, rest) =>
      match readPower rest with
      | none => none
      | some (power, rest) =>
        if places.isNone && power.isNone then
          let n : Int := ofDecimalDigits whole
          let n := if negative then -n else n
          if inRange n then some (.integer n, rest) else none
        else
          let x := Binary64.ofDigits negative whole (places.getD []) (power.getD 0)
          if x.same (.infinity false) then none else some (.float x, rest)

/-- Reads a number: decimal with or without a sign, a word for infinity or no number, or
without a sign in base 16, 8 or 2. -/
def readNumber : List Char → Option (Value × List Char)
  | '0' :: 'x' :: rest => readBased 16 rest
  | '0' :: 'o' :: rest => readBased 8 rest
  | '0' :: 'b' :: rest => readBased 2 rest
  | s =>
    let (negative, rest) := Binary64.readSign s
    match rest with
    | 'i' :: 'n' :: 'f' :: rest => some (.float (.infinity negative), rest)
    | 'n' :: 'a' :: 'n' :: rest => some (.float .nan, rest)
    | rest => readDecimal negative rest

/-! ## Times -/

/-- Reads as many decimal digits as asked for. -/
def readFixed : Nat → List Char → Option (List Char × List Char)
  | 0, s => some ([], s)
  | n + 1, c :: rest =>
    if c.isDigit then (readFixed n rest).map fun (digits, after) => (c :: digits, after) else none
  | _ + 1, [] => none

def readBetween (digits low high : Nat) (s : List Char) : Option (Nat × List Char) :=
  match readFixed digits s with
  | some (found, rest) =>
    let n := ofDecimalDigits found
    if low ≤ n && n ≤ high then some (n, rest) else none
  | none => none

/-- Passes over a day such as `1979-05-27`. -/
def dropDay (s : List Char) : Option (List Char) :=
  match readBetween 4 0 9999 s with
  | some (year, '-' :: rest) =>
    match readBetween 2 1 12 rest with
    | some (month, '-' :: rest) => (readBetween 2 1 (Date.monthLength year month) rest).map (·.2)
    | _ => none
  | _ => none

def dropFraction : List Char → Option (List Char)
  | '.' :: c :: rest => if c.isDigit then some (rest.dropWhile Char.isDigit) else none
  | '.' :: [] => none
  | s => some s

/-- Passes over a time of the day such as `07:32:00.5`. -/
def dropClock (s : List Char) : Option (List Char) :=
  match readBetween 2 0 23 s with
  | some (_, ':' :: rest) =>
    match readBetween 2 0 59 rest with
    | some (_, ':' :: rest) => (readBetween 2 0 60 rest).bind fun found => dropFraction found.2
    | _ => none
  | _ => none

/-- Passes over the distance from universal time, if there is one. -/
def dropZone : List Char → Option (List Char)
  | 'Z' :: rest => some rest
  | 'z' :: rest => some rest
  | c :: rest =>
    if c == '+' || c == '-' then
      match readBetween 2 0 23 rest with
      | some (_, ':' :: rest) => (readBetween 2 0 59 rest).map (·.2)
      | _ => none
    else some (c :: rest)
  | [] => some []

def beginsTime (s : List Char) : Bool :=
  match readFixed 4 s with
  | some (_, '-' :: _) => true
  | _ =>
    match readFixed 2 s with
    | some (_, ':' :: _) => true
    | _ => false

/-- Reads a day, a time of the day, or both with or without a zone. -/
def readTime (s : List Char) : Option (Value × List Char) :=
  match readFixed 2 s with
  | some (_, ':' :: _) => (dropClock s).map (Value.time, ·)
  | _ =>
    match dropDay s with
    | none => none
    | some (c :: rest) =>
      if c == 'T' || c == 't' || (c == ' ' && (rest.head?.any Char.isDigit)) then
        ((dropClock rest).bind dropZone).map (Value.time, ·)
      else some (.time, c :: rest)
    | some [] => some (.time, [])

/-! ## Words -/

def readScalar (s : List Char) : Option (Value × List Char) :=
  match s with
  | 't' :: 'r' :: 'u' :: 'e' :: rest => some (.boolean true, rest)
  | 'f' :: 'a' :: 'l' :: 's' :: 'e' :: rest => some (.boolean false, rest)
  | s => if beginsTime s then readTime s else readNumber s

end Gapfill.Toml
