import Gapfill.Toml.Reader

/-!
# TOML documents

`parse` puts the lines of a document together to one table. A table may be named by one header
only, and what was written in one piece, in braces or as a value, is closed to additions.
-/

namespace Gapfill.Toml

/-- Changes the table that a header names by its parts; tables that are missing come about, and of
an array of tables the last one is meant. -/
def changeAt (change : Entries → Option Entries) : List String → Entries → Option Entries
  | [], entries => change entries
  | part :: path, entries =>
    match entries.lookup part with
    | none =>
      (changeAt change path []).map fun sub => entries ++ [(part, .table .implied sub)]
    | some (.table origin sub) =>
      if origin == .inline then none
      else (changeAt change path sub).map fun sub => setEntry part (.table origin sub) entries
    | some (.array true items) =>
      match items.getLast? with
      | some (.table origin sub) =>
        (changeAt change path sub).map fun sub =>
          setEntry part (.array true (items.dropLast ++ [.table origin sub])) entries
      | _ => none
    | some _ => none

/-- Opens the table of a header: a new one, or one that came about only as a part of another's
name. -/
def openTable (last : String) (entries : Entries) : Option Entries :=
  match entries.lookup last with
  | none => some (entries ++ [(last, .table .header [])])
  | some (.table .implied sub) => some (setEntry last (.table .header sub) entries)
  | some _ => none

def openItem (last : String) (entries : Entries) : Option Entries :=
  match entries.lookup last with
  | none => some (entries ++ [(last, .array true [.table .header []])])
  | some (.array true items) =>
    some (setEntry last (.array true (items ++ [.table .header []])) entries)
  | some _ => none

/-- A document in the making: its table, and the name of the table that lines belong to. -/
structure Draft where
  root : Entries
  current : List String

def Draft.add (draft : Draft) : Line → Option Draft
  | .header path last =>
    (changeAt (openTable last) path draft.root).map fun root => ⟨root, path ++ [last]⟩
  | .item path last =>
    (changeAt (openItem last) path draft.root).map fun root => ⟨root, path ++ [last]⟩
  | .pair path last value =>
    (changeAt (addDotted value last .header path) draft.current draft.root).map fun root =>
      ⟨root, draft.current⟩

/-- The text without the mark of byte order at its start. -/
def dropMark : List Char → List Char
  | '\ufeff' :: rest => rest
  | s => s

def parse (text : String) : Option Entries :=
  let s := dropMark text.toList
  match readDocument (s.length + 1) s with
  | none => none
  | some lines => (lines.foldlM Draft.add ⟨[], []⟩).map (·.root)

end Gapfill.Toml
