/-!
# White space

The blank characters are those with the property White_Space; a text is trimmed
by dropping blanks at its ends, and it is blank if nothing remains.
-/

namespace Gapfill

/-- A character with the property White_Space. -/
def isBlank (c : Char) : Bool :=
  c == ' ' || ('\t' ≤ c && c ≤ '\r') || c == '\u0085' || c == '\u00a0' || c == '\u1680' ||
  ('\u2000' ≤ c && c ≤ '\u200a') || c == '\u2028' || c == '\u2029' || c == '\u202f' ||
  c == '\u205f' || c == '\u3000'

def trimStart (s : List Char) : List Char := s.dropWhile isBlank

def trimEnd (s : List Char) : List Char := (s.reverse.dropWhile isBlank).reverse

def trim (s : List Char) : List Char := trimEnd (trimStart s)

/-- Whether the text has no character but blanks. -/
def isBlankText (s : List Char) : Bool := s.all isBlank

end Gapfill
