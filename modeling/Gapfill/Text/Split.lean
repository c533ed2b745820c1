/-!
# Cutting texts at a separator

A text is cut at each place where the separator stands, from left to right and without overlap.
The empty separator stands before and behind every character, and at both ends.
-/

namespace Gapfill

/-- Cuts a text at a separator that is not empty. `current` is the piece read so far, backwards;
`skip` counts the characters of a separator that are still to be passed over. -/
def splitFrom (separator : List Char) : Nat → List Char → List Char → List (List Char)
  | _, current, [] => [current.reverse]
  | skip + 1, current, _ :: rest => splitFrom separator skip current rest
  | 0, current, c :: rest =>
    if separator.isPrefixOf (c :: rest) then
      current.reverse :: splitFrom separator (separator.length - 1) [] rest
    else splitFrom separator 0 (c :: current) rest

/-- The pieces of a text between the separators. -/
def splitAt (separator text : List Char) : List (List Char) :=
  if separator.isEmpty then [] :: text.map (fun c => [c]) ++ [[]]
  else splitFrom separator 0 [] text

def splitLines (text : List Char) : List (List Char) := splitAt ['\n'] text

/-- How many bytes of UTF-8 a text takes. -/
def utf8Length : List Char → Nat
  | [] => 0
  | c :: rest => c.utf8Size + utf8Length rest

end Gapfill
