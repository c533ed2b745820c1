import Gapfill.Text.Split

/-!
# Paths

A path is a text with slashes between the names of directories, the last of which may be that of
a file. It is kept as it was written, since messages show it so; `names` is what it leads
through.
-/

namespace Gapfill.Path

def isAbsolute (path : String) : Bool := path.toList.head? == some '/'

/-- The path that leads on from `base`. An absolute path leads there from anywhere. -/
def join (base path : String) : String :=
  if isAbsolute path then path
  else if base.isEmpty || base.toList.getLast? == some '/' then base ++ path
  else base ++ "/" ++ path

/-- The pieces between the slashes, as far as there is something in them. -/
def pieces (path : String) : List String :=
  ((splitAt ['/'] path.toList).filter fun piece => !piece.isEmpty).map String.ofList

/-- The names that a path leads through. A slash at the end stands for the directory itself. -/
def names (path : String) : List String :=
  if path.toList.getLast? == some '/' then pieces path ++ ["."] else pieces path

/-- The pieces of a path without those that lead nowhere; one at the start of a path is kept. -/
def steps (path : String) : List String :=
  match pieces path with
  | [] => []
  | first :: rest =>
    let rest := rest.filter (· != ".")
    if first == "." && isAbsolute path then rest else first :: rest

/-- A path, backwards, without the slashes at its end and the pieces there that lead nowhere. -/
def dropEnd : List Char → List Char
  | '/' :: rest => dropEnd rest
  | '.' :: '/' :: rest => dropEnd rest
  | path => path

/-- How many bytes a path takes up to the last but one of its steps. -/
def aboveLength (path : String) : Nat :=
  utf8Length (dropEnd ((dropEnd path.toList.reverse).dropWhile (· != '/')))

/-- Whether the name of a file ends in `.toml` with something before it. -/
def isToml (name : String) : Bool :=
  let ending := ".toml".toList
  ending.isSuffixOf name.toList && name.toList != ending

/-- The order of paths by their names, one after the other. -/
def before : List String → List String → Bool
  | [], _ => true
  | _ :: _, [] => false
  | a :: as, b :: bs => a < b || (a == b && before as bs)

def inOrder (paths : List String) : List String :=
  paths.mergeSort fun path path' => before (steps path) (steps path')

end Gapfill.Path
