/-!
# Command lines

A command is named by the first argument, and the others are its options: `--name value` or
`--name=value`, or a name alone. An option comes once at most, unless it may be repeated. A
separate value does not begin with a hyphen, except for a hyphen alone.

`Request.ofArguments?` gives what a command line asks for, or nothing if it does not fit.
-/

namespace Gapfill.Cli

/-- What an option takes behind its name. -/
inductive Operand where
  | nothing
  | text
  /-- A text that is not empty. -/
  | path
deriving DecidableEq

structure OptionRule where
  name : String
  operand : Operand
  repeats : Bool := false

/-- The options of a command line by name, in their order. -/
abbrev Given := List (String × String)

/-- Splits `--name=value` behind the hyphens. -/
def splitOption (text : List Char) : String × Option String :=
  let name := String.ofList (text.takeWhile (· != '='))
  match text.dropWhile (· != '=') with
  | [] => (name, none)
  | _ :: value => (name, some (String.ofList value))

def looksLikeOption (argument : String) : Bool :=
  match argument.toList with
  | '-' :: _ :: _ => true
  | _ => false

def OptionRule.accepts (rule : OptionRule) (value : String) : Bool :=
  rule.operand == .text || rule.operand == .path && !value.isEmpty

/-- Reads options. Behind `--` nothing may come. -/
def readOptions (rules : List OptionRule) : List String → Option Given
  | [] => some []
  | argument :: rest =>
    match argument.toList with
    | ['-', '-'] => if rest.isEmpty then some [] else none
    | '-' :: '-' :: text =>
      let (name, inline?) := splitOption text
      match rules.find? fun rule => rule.name == name with
      | none => none
      | some rule =>
        match rule.operand, inline?, rest with
        | .nothing, none, rest => (readOptions rules rest).map ((name, "") :: ·)
        | .nothing, some _, _ => none
        | _, some value, rest =>
          if rule.accepts value then (readOptions rules rest).map ((name, value) :: ·) else none
        | _, none, value :: rest =>
          if looksLikeOption value || !rule.accepts value then none
          else (readOptions rules rest).map ((name, value) :: ·)
        | _, none, [] => none
    | _ => none

/-- Whether options come as often as they may. -/
def keepsRules (rules : List OptionRule) (given : Given) : Bool :=
  rules.all fun rule => rule.repeats || given.countP (fun option => option.1 == rule.name) ≤ 1

/-- The options of a command, if they keep to its rules. -/
def givenOptions? (rules : List OptionRule) (arguments : List String) : Option Given :=
  (readOptions rules arguments).filter (keepsRules rules)

structure Destination where
  /-- The directory that the command line names. -/
  directory? : Option String
  /-- Whether the directory of the settings is meant otherwise. -/
  save : Bool
deriving DecidableEq

inductive Command where
  | validate (question : String)
  | grade (question : String) (answers : List String) (responses? format? : Option String)
      (destination : Destination) (settings? : Option String)
  | explain (question : String) (settings? : Option String)
  | init
deriving DecidableEq

namespace Command

def validateRules : List OptionRule := [{ name := "question", operand := .path }]

def gradeRules : List OptionRule :=
  [{ name := "question", operand := .path },
    { name := "answer", operand := .text, repeats := true },
    { name := "responses", operand := .path }, { name := "format", operand := .text },
    { name := "output", operand := .path }, { name := "save", operand := .nothing },
    { name := "config", operand := .path }]

def explainRules : List OptionRule :=
  [{ name := "question", operand := .path }, { name := "config", operand := .path }]

def ofArguments? (name : String) (arguments : List String) : Option Command :=
  match name with
  | "validate" => do
    let given ← givenOptions? validateRules arguments
    return validate (← given.lookup "question")
  | "grade" => do
    let given ← givenOptions? gradeRules arguments
    let question ← given.lookup "question"
    let answers := (given.filter fun option => option.1 == "answer").map (·.2)
    let responses? := given.lookup "responses"
    if !answers.isEmpty && responses?.isSome then none
    else
      return grade question answers responses? (given.lookup "format")
        ⟨given.lookup "output", (given.lookup "save").isSome⟩ (given.lookup "config")
  | "explain" => do
    let given ← givenOptions? explainRules arguments
    return explain (← given.lookup "question") (given.lookup "config")
  | "init" => (givenOptions? [] arguments).map fun _ => init
  | _ => none

end Command

inductive Request where
  | usage
  | version
  | run (command : Command)
deriving DecidableEq

def Request.ofArguments? : List String → Option Request
  | [] => none
  | "--help" :: _ | "-h" :: _ | "help" :: _ => some usage
  | "--version" :: _ | "-V" :: _ => some version
  | name :: arguments => (Command.ofArguments? name arguments).map run

end Gapfill.Cli
