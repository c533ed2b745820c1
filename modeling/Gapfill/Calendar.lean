import Gapfill.Number.Digits
import Gapfill.Text.Blank

/-!
# Instants and dates

An instant is a second of universal time, counted from the beginning of 1970, and a part of it in
nanoseconds. A leap second is the same second as the one before it, with a part that is
not less than one. Dates are those of the Gregorian calendar, continued in both directions; the year
before the year 1 is the year 0.

Instants are written with a `Z` behind them, and read with any offset from universal time.
-/

namespace Gapfill

structure Instant where
  /-- Seconds since the beginning of 1970. -/
  second : Int
  /-- Nanoseconds, of which a leap second has more than a thousand million. -/
  nano : Nat
deriving DecidableEq

structure Date where
  year : Int
  month : Nat
  day : Nat
deriving DecidableEq

namespace Date

/-! ## Days and dates -/

def isLeapYear (year : Int) : Bool := year % 4 = 0 && (year % 100 != 0 || year % 400 = 0)

def monthLength (year : Int) (month : Nat) : Nat :=
  if month = 2 then if isLeapYear year then 29 else 28
  else if month = 4 || month = 6 || month = 9 || month = 11 then 30 else 31

def isValid (date : Date) : Bool :=
  1 ≤ date.month && date.month ≤ 12 && 1 ≤ date.day && date.day ≤ monthLength date.year date.month

/-- How many days there are from the beginning of 1970 to a day. The year is taken to begin in
March, so that the leap day is its last one. -/
def toDays (date : Date) : Int :=
  let year := if date.month ≤ 2 then date.year - 1 else date.year
  let month : Nat := (date.month + 9) % 12
  let dayOfYear : Nat := (153 * month + 2) / 5 + date.day
  365 * year + year / 4 - year / 100 + year / 400 + dayOfYear - 719469

/-- The day that so many days from the beginning of 1970 lead to. Within 400 years the days are
counted from a first of March. -/
def ofDays (days : Int) : Date :=
  let shifted := days + 719468
  let era := shifted / 146097
  let dayOfEra := (shifted % 146097).toNat
  let yearOfEra := (dayOfEra - dayOfEra / 1460 + dayOfEra / 36524 - dayOfEra / 146096) / 365
  let dayOfYear := dayOfEra - (365 * yearOfEra + yearOfEra / 4 - yearOfEra / 100)
  let month := (5 * dayOfYear + 2) / 153
  let day := dayOfYear - (153 * month + 2) / 5 + 1
  let year := era * 400 + yearOfEra
  if month < 10 then ⟨year, month + 3, day⟩ else ⟨year + 1, month - 9, day⟩

/-- The least and the greatest year that dates are kept for. -/
def minYear : Int := -262143

def maxYear : Int := 262142

end Date

/-! ## Writing -/

/-- A natural number with at least so many digits. -/
def paddedText (width n : Nat) : String :=
  let digits := decimalDigits n
  String.ofList (List.replicate (width - digits.length) '0' ++ digits)

namespace Instant

def nanosPerSecond : Nat := 1000000000

def date (t : Instant) : Date := .ofDays (t.second / 86400)

def daySecond (t : Instant) : Nat := (t.second % 86400).toNat

/-- Hours, minutes and seconds; a leap second has the number 60. -/
def clock (t : Instant) : Nat × Nat × Nat :=
  (t.daySecond / 3600, t.daySecond / 60 % 60, t.daySecond % 60 + t.nano / nanosPerSecond)

/-- A year with four digits, and with a sign if it has not between one and four of them. -/
def yearText (year : Int) : String :=
  if 0 ≤ year && year ≤ 9999 then paddedText 4 year.toNat
  else (if year < 0 then "-" else "+") ++ paddedText 4 year.natAbs

/-- The part of a second, in thousandths, millionths or all nanoseconds, whichever is enough. -/
def fractionText (nano : Nat) : String :=
  if nano = 0 then ""
  else if nano % 1000000 = 0 then "." ++ paddedText 3 (nano / 1000000)
  else if nano % 1000 = 0 then "." ++ paddedText 6 (nano / 1000)
  else "." ++ paddedText 9 nano

/-- Date and time with marks between their parts. -/
def text (t : Instant) : String :=
  let d := t.date
  let (hour, minute, second) := t.clock
  yearText d.year ++ "-" ++ paddedText 2 d.month ++ "-" ++ paddedText 2 d.day ++ "T" ++
    paddedText 2 hour ++ ":" ++ paddedText 2 minute ++ ":" ++ paddedText 2 second ++
    fractionText (t.nano % nanosPerSecond) ++ "Z"

/-- Date and time without marks, as a part of a file name. -/
def compactText (t : Instant) : String :=
  let d := t.date
  let (hour, minute, second) := t.clock
  yearText d.year ++ paddedText 2 d.month ++ paddedText 2 d.day ++ "T" ++
    paddedText 2 hour ++ paddedText 2 minute ++ paddedText 2 second

/-! ## Reading -/

/-- Reads at least one and at most `most` digits, before which blanks may stand. -/
def readNumber (most : Nat) (s : List Char) : Option (Nat × List Char) :=
  let s := trimStart s
  let digits := (s.take most).takeWhile Char.isDigit
  if digits.isEmpty then none else some (ofDecimalDigits digits, s.drop digits.length)

/-- Reads a year: four digits at most, or a sign and any digits. -/
def readYear (s : List Char) : Option (Int × List Char) :=
  match trimStart s with
  | '-' :: rest =>
    if rest.head?.any Char.isDigit then
      (readNumber rest.length rest).map fun (n, rest) => (-(n : Int), rest)
    else none
  | '+' :: rest =>
    if rest.head?.any Char.isDigit then
      (readNumber rest.length rest).map fun (n, rest) => ((n : Int), rest)
    else none
  | s => (readNumber 4 s).map fun (n, rest) => ((n : Int), rest)

/-- Reads a mark, before which blanks may stand. -/
def readMark (mark : Char) (s : List Char) : Option (List Char) :=
  match trimStart s with
  | c :: rest => if c == mark then some rest else none
  | [] => none

/-- Reads a part of a second. Digits behind the ninth do not count. -/
def readFraction (s : List Char) : Option (Nat × List Char) :=
  match s with
  | '.' :: rest =>
    let digits := rest.takeWhile Char.isDigit
    let nine := digits.take 9
    if digits.isEmpty then none
    else some (ofDecimalDigits nine * Nat.pow 10 (9 - nine.length), rest.drop digits.length)
  | s => some (0, s)

def readTwo : List Char → Option (Nat × List Char)
  | a :: b :: rest =>
    if a.isDigit && b.isDigit then some (ofDecimalDigits [a, b], rest) else none
  | _ => none

/-- Reads an offset from universal time, in seconds. -/
def readOffset (s : List Char) : Option (Int × List Char) :=
  match s with
  | [] => none
  | c :: rest =>
    if c == 'Z' || c == 'z' then some (0, rest)
    else if c == '+' || c == '-' || c == '\u2212' then do
      let (hours, rest) ← readTwo rest
      let (minutes, rest) ← readTwo (rest.dropWhile fun c => c == ':' || isBlank c)
      if 60 ≤ minutes then none
      else
        let seconds : Int := hours * 3600 + minutes * 60
        some (if c == '+' then seconds else -seconds, rest)
    else none

/-- Reads the zone behind a time: `UTC` or an offset. -/
def readZone (s : List Char) : Option (Int × List Char) :=
  if (s.take 3).map Char.toUpper == "UTC".toList then some (0, s.drop 3) else readOffset s

/-- A time of the day with an offset from universal time. -/
def ofParts? (date : Date) (hour minute second nano : Nat) (offset : Int) : Option Instant :=
  if date.isValid && hour < 24 && minute < 60 && second ≤ 60 && offset.natAbs < 86400 &&
      Date.minYear ≤ date.year && date.year ≤ Date.maxYear then
    let leap := second = 60
    let localSecond : Int := date.toDays * 86400 + (hour * 3600 + minute * 60 + min second 59 : Nat)
    let t : Instant := ⟨localSecond - offset, if leap then nano + nanosPerSecond else nano⟩
    if Date.minYear ≤ t.date.year && t.date.year ≤ Date.maxYear then some t else none
  else none

/-- The instant that a text denotes. -/
def ofText? (text : String) : Option Instant := do
  let (year, s) ← readYear text.toList
  let s ← readMark '-' s
  let (month, s) ← readNumber 2 s
  let s ← readMark '-' s
  let (day, s) ← readNumber 2 s
  let s ← match s with
    | c :: rest => if c == 't' || c == 'T' || c == ' ' then some rest else none
    | [] => none
  let (hour, s) ← readNumber 2 s
  let s ← readMark ':' s
  let (minute, s) ← readNumber 2 s
  let s ← readMark ':' s
  let (second, s) ← readNumber 2 s
  let (nano, s) ← readFraction s
  let (offset, s) ← readZone (trimStart s)
  if isBlankText s then ofParts? ⟨year, month, day⟩ hour minute second nano offset else none

end Instant

end Gapfill
