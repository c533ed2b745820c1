/-!
# What a command puts out

A command prints texts on standard output and notes on standard error, and it may fail. What it
has printed before it fails stays printed.
-/

namespace Gapfill.Cli

/-- The result of a command. -/
structure Output where
  printed : String
  notes : List String
  /-- Why the command failed: the messages from the outermost to the first cause. -/
  failure? : Option (List String)
deriving DecidableEq

namespace Output

/-- The command has printed a text and is done. -/
def print (text : String) : Output := ⟨text, [], none⟩

def fail (messages : List String) : Output := ⟨"", [], some messages⟩

/-- What a command has printed before it goes on. -/
def after (text : String) (output : Output) : Output :=
  { output with printed := text ++ output.printed }

/-- Lines, each with a newline behind it. -/
def lines (texts : List String) : String := String.join (texts.map (· ++ "\n"))

def exitCode (output : Output) : Nat := if output.failure?.isNone then 0 else 1

/-- What goes to standard error. -/
def errorText (output : Output) : String :=
  lines (output.notes ++
    (output.failure?.map fun messages => "Error: " ++ ": ".intercalate messages).toList)

end Output

end Gapfill.Cli
