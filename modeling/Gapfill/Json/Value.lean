import Gapfill.Number.Decimal

/-!
# JSON values

A number is an integer if it is written like one and has at most 64 bits, and else a float.
Members of an object are kept in the order in which they are written, and a name may come again.

`Json.record?` reads a value as a record with fixed fields, given by name or in their order.
-/

namespace Gapfill

inductive Json where
  | null
  | boolean (b : Bool)
  | integer (n : Int)
  | float (x : Binary64)
  | string (text : String)
  | array (items : List Json)
  | object (members : List (String × Json))
  /-- A well-formed text that denotes no value: a number out of range, a string with half of a
  character, or an object with such a string for a name. -/
  | broken

namespace Json

def text? : Json → Option String
  | string text => some text
  | _ => none

/-- A float, or the float nearest to an integer. -/
def float? : Json → Option Binary64
  | float x => some x
  | integer n => some (.ofDecimal (n < 0) n.natAbs 0)
  | _ => none

def nat? : Json → Option Nat
  | integer n => if 0 ≤ n then some n.toNat else none
  | _ => none

def nullable? {α : Type} (read : Json → Option α) : Json → Option (Option α)
  | null => some none
  | value => (read value).map some

/-- A list of values that are read in the same way. -/
def list? {α : Type} (read : Json → Option α) : Json → Option (List α)
  | array items => items.mapM read
  | _ => none

/-- How often a name comes among members. -/
def timesNamed (name : String) (members : List (String × Json)) : Nat :=
  members.countP fun member => member.1 == name

/-- The members of a record. An object has none of the fields twice; an array has a value for
every one of them. -/
def record? (fields : List String) : Json → Option (List (String × Json))
  | object members =>
    if fields.all fun field => timesNamed field members ≤ 1 then some members else none
  | array items => if items.length = fields.length then some (fields.zip items) else none
  | _ => none

/-- The value of a field that has to be there. -/
def field? {α : Type} (members : List (String × Json)) (field : String) (read : Json → Option α) :
    Option α :=
  (members.lookup field).bind read

/-- The value of a field that may be null or missing. -/
def nullableField? {α : Type} (members : List (String × Json)) (field : String)
    (read : Json → Option α) : Option (Option α) :=
  match members.lookup field with
  | none => some none
  | some value => value.nullable? read

end Json

end Gapfill
