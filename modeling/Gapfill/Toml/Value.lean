import Gapfill.Number.Decimal

/-!
# TOML values

A table remembers how it came about, since that decides whether a later line of the document
may add to it. `Value.entries?` and the functions after it read a value as the kind that
a program asks for.
-/

namespace Gapfill.Toml

/-- How a table came about. -/
inductive Origin where
  /-- By a header of its own. -/
  | header
  /-- As a part of the name in a header. -/
  | implied
  /-- As a part of a dotted key. -/
  | dotted
  /-- In braces, all at once. -/
  | inline
deriving DecidableEq

inductive Value where
  | string (text : String)
  | integer (n : Int)
  | float (x : Binary64)
  | boolean (b : Bool)
  | time
  /-- An array; an open one is a list of tables to which headers may add. -/
  | array (isOpen : Bool) (items : List Value)
  | table (origin : Origin) (entries : List (String × Value))

/-- The keys of a table with their values, in the order of the document. -/
abbrev Entries := List (String × Value)

namespace Value

def string? : Value → Option String
  | string text => some text
  | _ => none

/-- A float, or the float nearest to an integer. -/
def float? : Value → Option Binary64
  | float x => some x
  | integer n => some (.ofDecimal (n < 0) n.natAbs 0)
  | _ => none

def nat? : Value → Option Nat
  | integer n => if 0 ≤ n then some n.toNat else none
  | _ => none

def items? : Value → Option (List Value)
  | array _ items => some items
  | _ => none

/-- The name of the only entry of a time that is read as a table. -/
def timeKey : String := "$__toml_private_datetime"

/-- The entries of a table. A time counts as a table with one text. -/
def entries? : Value → Option Entries
  | table _ entries => some entries
  | time => some [(timeKey, string "")]
  | _ => none

/-- A value as a record: the entries of a table, or the items of an array for the fields in
their order. -/
def record? (fields : List String) : Value → Option Entries
  | array _ items => some (fields.zip items)
  | value => value.entries?

def listOf? {α : Type} (read : Value → Option α) (value : Value) : Option (List α) :=
  value.items?.bind fun items => items.mapM read

def texts? (value : Value) : Option (List (String × String)) :=
  value.entries?.bind fun entries =>
    entries.mapM fun (key, value) => value.string?.map fun text => (key, text)

end Value

namespace Entries

/-- The value of a field that has to be there. -/
def required? {α : Type} (entries : Entries) (field : String) (read : Value → Option α) :
    Option α :=
  (entries.lookup field).bind read

/-- The value of a field, or a default if it is not there. -/
def optional? {α : Type} (entries : Entries) (field : String) (read : Value → Option α)
    (default : α) : Option α :=
  match entries.lookup field with
  | none => some default
  | some value => read value

end Entries

end Gapfill.Toml
