import Gapfill.Json.Number
import Gapfill.Number.Digits

/-!
# Printing JSON

Items and members stand on lines of their own, indented by two spaces for each level. In a
string only quotes, backslashes and control characters are escaped.
-/

namespace Gapfill.Json

/-- A character as it stands in a string. -/
def escapedChar (c : Char) : List Char :=
  match c with
  | '"' => ['\\', '"']
  | '\\' => ['\\', '\\']
  | '\x08' => ['\\', 'b']
  | '\x0c' => ['\\', 'f']
  | '\n' => ['\\', 'n']
  | '\r' => ['\\', 'r']
  | '\t' => ['\\', 't']
  | c => if c < ' ' then '\\' :: 'u' :: hexDigits 4 c.toNat else [c]

def quotedText (text : String) : List Char := '"' :: text.toList.flatMap escapedChar ++ ['"']

/-- The beginning of a line at some level. -/
def newLine (level : Nat) : List Char := '\n' :: List.replicate (2 * level) ' '

mutual

/-- A value at some level. What denotes nothing is printed as null. -/
def printAt (level : Nat) : Json → List Char
  | null | broken => "null".toList
  | boolean b => (if b then "true" else "false").toList
  | integer n => (if n < 0 then ['-'] else []) ++ decimalDigits n.natAbs
  | float x => floatText x
  | string text => quotedText text
  | array [] => "[]".toList
  | array (item :: items) =>
    '[' :: newLine (level + 1) ++ printAt (level + 1) item ++ printItems (level + 1) items ++
      newLine level ++ [']']
  | object [] => "\x7b\x7d".toList
  | object ((name, value) :: members) =>
    '\x7b' :: newLine (level + 1) ++ quotedText name ++ ": ".toList ++ printAt (level + 1) value ++
      printMembers (level + 1) members ++ newLine level ++ ['\x7d']

/-- The items behind the first one. -/
def printItems (level : Nat) : List Json → List Char
  | [] => []
  | item :: items => ',' :: newLine level ++ printAt level item ++ printItems level items

/-- The members behind the first one. -/
def printMembers (level : Nat) : List (String × Json) → List Char
  | [] => []
  | (name, value) :: members =>
    ',' :: newLine level ++ quotedText name ++ ": ".toList ++ printAt level value ++
      printMembers level members

end

def pretty (value : Json) : String := String.ofList (printAt 0 value)

end Gapfill.Json
