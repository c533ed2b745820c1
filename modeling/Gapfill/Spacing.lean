import Gapfill.Options

/-!
# Tolerance for blanks

Before a pattern is compiled, the options widen some of its tokens: a space, `;` and `\|`, and the
redirections `<`, `>`, `<<` and `>>` come to stand for expressions that allow blanks
around them. The text is first cut into tokens; bracket sets, escapes and the names of groups are
passed over. Each rule reads the text that the rule before it wrote.

The last rule puts a backslash before each bare `/`, so that a pattern can be
written between slashes.
-/

namespace Gapfill

/-- A token of a pattern, as the rules for blanks see it. -/
inductive Token where
  /-- A character in a bracket set or in the name of a group. -/
  | inert (c : Char)
  /-- A backslash and the character after it. -/
  | escape (c : Char)
  /-- Two equal angle brackets. -/
  | pair (c : Char)
  | char (c : Char)
deriving DecidableEq

namespace Token

def text : Token → List Char
  | inert c => [c]
  | escape c => ['\\', c]
  | pair c => [c, c]
  | char c => [c]

/-- What the characters at a place of a pattern belong to. -/
inductive Context where
  | plain
  /-- The name of a group, up to its angle bracket. -/
  | groupName
  /-- A bracket set in `depth` others, right after its bracket. -/
  | opened (depth : Nat)
  /-- The same, after the sign of negation. -/
  | negated (depth : Nat)
  | inside (depth : Nat)
  /-- The same, after a backslash. -/
  | escaped (depth : Nat)

/-- The context after a character of a bracket set that is not escaped. -/
def insideAfter (depth : Nat) (c : Char) : Context :=
  if c = '\\' then .escaped depth
  else if c = '[' then .opened (depth + 1)
  else if c = ']' then (if depth = 0 then .plain else .inside (depth - 1))
  else .inside depth

/-- Whether a parenthesis, which comes before this text, begins a group with a name. -/
def startsName : List Char → Bool
  | '?' :: 'P' :: '<' :: rest => rest.contains '>'
  | '?' :: '<' :: '=' :: _ => false
  | '?' :: '<' :: '!' :: _ => false
  | '?' :: '<' :: rest => rest.contains '>'
  | _ => false

/-- Cuts a pattern into tokens. -/
def scan : Context → List Char → List Token
  | _, [] => []
  | .groupName, c :: rest => inert c :: scan (if c = '>' then .plain else .groupName) rest
  | .opened d, c :: rest =>
    inert c :: scan (if c = '^' then .negated d else if c = ']' then .inside d
      else insideAfter d c) rest
  | .negated d, c :: rest =>
    inert c :: scan (if c = ']' then .inside d else insideAfter d c) rest
  | .inside d, c :: rest => inert c :: scan (insideAfter d c) rest
  | .escaped d, c :: rest => inert c :: scan (.inside d) rest
  | .plain, '\\' :: c :: rest => escape c :: scan .plain rest
  | .plain, '<' :: '<' :: rest => pair '<' :: scan .plain rest
  | .plain, '>' :: '>' :: rest => pair '>' :: scan .plain rest
  | .plain, c :: rest =>
    if c = '[' then inert c :: scan (.opened 0) rest
    else if c = '(' && startsName rest then inert c :: scan .groupName rest
    else char c :: scan .plain rest

end Token

inductive SpacingRule where
  | wideSpace
  | pipeSpace
  | redirectSpace
  | escapeSlash
deriving DecidableEq

namespace SpacingRule

/-- All rules, in the order in which they apply. -/
def all : List SpacingRule := [wideSpace, pipeSpace, redirectSpace, escapeSlash]

def name : SpacingRule → String
  | wideSpace => "infinite-space"
  | pipeSpace => "pipe-semi-space"
  | redirectSpace => "redirect-space"
  | escapeSlash => "escape-delimiter"

def enabled (o : Options) : SpacingRule → Bool
  | wideSpace => o.wideSpace
  | pipeSpace => o.pipeSpace
  | redirectSpace => o.redirectSpace
  | escapeSlash => true

/-- The expression for one space or tab. -/
def blank : List Char := "[ \\t]".toList

/-- The expression for `text` with any spaces and tabs around it. -/
def padded (text : List Char) : List Char := blank ++ ['*'] ++ text ++ blank ++ ['*']

def replace : SpacingRule → Token → List Char
  | wideSpace, .char ' ' => blank ++ ['+']
  | pipeSpace, .char ';' => padded "(?:;|\\n)".toList
  | pipeSpace, .escape '|' => padded ['\\', '|']
  | redirectSpace, .char '<' => padded ['<']
  | redirectSpace, .char '>' => padded ['>']
  | redirectSpace, .pair c => padded [c, c]
  | _, t => t.text

/-- Puts a backslash before each `/` that has none; the flag says that a backslash comes right
before the text. -/
def escapeSlashes : Bool → List Char → List Char
  | _, [] => []
  | true, c :: rest => c :: escapeSlashes false rest
  | false, c :: rest =>
    if c = '/' then '\\' :: c :: escapeSlashes false rest
    else c :: escapeSlashes (c == '\\') rest

def apply (rule : SpacingRule) (body : List Char) : List Char :=
  match rule with
  | escapeSlash => escapeSlashes false body
  | rule => (Token.scan .plain body).flatMap rule.replace

def ofName? (name : String) : Option SpacingRule := all.find? fun r => r.name == name

/-- The pattern after all the rules that the options ask for. -/
def applyAll (o : Options) (body : List Char) : List Char :=
  (all.filter (enabled o)).foldl (fun text rule => rule.apply text) body

end SpacingRule

end Gapfill
