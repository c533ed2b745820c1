import Gapfill.Field
import Gapfill.Pattern.Reader
import Gapfill.Spacing

/-!
# Compiled patterns

A sub-pattern is compiled by widening its expressions for blanks and anchoring them to the
whole answer. Its expressions are joined into one, with the separator between them, or each
stands for one line of the answer when the order of lines does not matter.
-/

namespace Gapfill

/-- Bounds on patterns and answers. -/
structure Limits where
  /-- The most bytes that the program of one pattern may take. -/
  programSize : Nat
  /-- The bytes of working memory for running one pattern. -/
  cacheSize : Nat
  /-- The most characters that an answer may have. -/
  answerLength : Nat
deriving DecidableEq

def Limits.default : Limits := ⟨1048576, 2097152, 65536⟩

/-- The text as a pattern that matches just this text. -/
def quoted (text : List Char) : List Char :=
  text.flatMap fun c => if Pattern.isMeta c then ['\\', c] else [c]

/-- The pattern for the whole answer to be the bodies one after the other, with the separator
between them. -/
def anchored (bodies : List (List Char)) (separator : String) : List Char :=
  let groups := bodies.map fun body => "(?:".toList ++ body ++ [')']
  '^' :: (quoted separator.toList).intercalate groups ++ ['$']

/-- An expression that is anchored to the whole of a text. -/
structure Matcher where
  /-- The pattern, as text. -/
  pattern : String
  ignoreCase : Bool
  dotNewline : Bool
  regex : Pattern.Regex
deriving DecidableEq

namespace Matcher

def accepts (m : Matcher) (text : List Char) : Bool := m.regex.search text

/-- The pattern between slashes, with letters for its flags. -/
def delimited (m : Matcher) : String :=
  "/" ++ m.pattern ++ "/" ++ (if m.ignoreCase then "i" else "") ++
    (if m.dotNewline then "s" else "")

end Matcher

/-- A pattern that was refused, and why. -/
structure CompileError where
  pattern : String
  refusal : Pattern.Refusal

def CompileError.message (e : CompileError) : String :=
  "failed to compile pattern '" ++ e.pattern ++ "': " ++ e.refusal.message

/-- Compiles the text of an anchored pattern. -/
def Matcher.compile (pattern : List Char) (options : Options) (limits : Limits) :
    Except CompileError Matcher :=
  let text := String.ofList pattern
  match Pattern.compile options.ignoreCase options.dotNewline limits.programSize pattern with
  | .ok regex => .ok ⟨text, options.ignoreCase, options.dotNewline, regex⟩
  | .error refusal => .error ⟨text, refusal⟩

/-- A sub-pattern in executable form. -/
inductive Compiled where
  /-- The whole answer has to match. -/
  | ordered (matcher : Matcher) (options : Options)
  /-- Each matcher looks for a line of its own. -/
  | anyOrder (matchers : List Matcher) (separator : String) (options : Options)
  /-- A stored pattern that is refused matches nothing. -/
  | unusable (error : CompileError)

namespace Compiled

/-- Compiles one pattern after the other, up to the first that is refused. -/
def compileEach (options : Options) (limits : Limits) :
    List (List Char) → Except CompileError (List Matcher)
  | [] => .ok []
  | pattern :: rest =>
    match Matcher.compile pattern options limits with
    | .error e => .error e
    | .ok m =>
      match compileEach options limits rest with
      | .error e => .error e
      | .ok ms => .ok (m :: ms)

/-- Compiles a sub-pattern, unless one of its patterns is refused. -/
def ofSubPattern (sub : SubPattern) (separator : String) (limits : Limits) :
    Except CompileError Compiled :=
  let bodies := sub.regexes.map fun body => SpacingRule.applyAll sub.options body.toList
  if sub.options.anyOrder then
    (compileEach sub.options limits (bodies.map fun body => anchored [body] separator)).map
      fun ms => .anyOrder ms separator sub.options
  else
    (Matcher.compile (anchored bodies separator) sub.options limits).map
      fun m => .ordered m sub.options

/-- Compiles a stored sub-pattern; one that is refused matches nothing. -/
def ofStored (sub : SubPattern) (separator : String) (limits : Limits) : Compiled :=
  match ofSubPattern sub separator limits with
  | .ok compiled => compiled
  | .error e => .unusable e

end Compiled

end Gapfill
