import Gapfill.Cli.Run
import Std.Time.DateTime.Timestamp

/-!
# The program

Runs the command that the command line names, on the files and with the variables that are there.
-/

namespace Gapfill

/-- The fault that an error of the system stands for. -/
def DiskFault.ofError : IO.Error → DiskFault
  | .noFileOrDirectory .. => missing
  | .alreadyExists .. => alreadyExists
  | .inappropriateType _ _ details =>
    if details == "not a directory" then notADirectory else isADirectory
  | error => other (toString error)

/-- Does something that may fail with a fault. -/
def guarded {α : Type} (action : IO α) : IO (Except DiskFault α) := do
  try
    return .ok (← action)
  catch error => return .error (.ofError error)

/-- The variables, as the system keeps them: each with a zero behind it. -/
def readEnvironment : IO Environment := do
  let text ← IO.FS.readFile "/proc/self/environ"
  return (text.splitOn "\x00").filterMap fun entry =>
    match entry.splitOn "=" with
    | name :: value :: rest => some (name, "=".intercalate (value :: rest))
    | _ => none

/-- The names in a directory of the system. -/
def listNames (path : String) : IO (List String) := do
  let here ← IO.currentDir
  let entries ← { here with toString := path }.readDir
  return entries.toList.map fun entry => entry.fileName

def hasDirectory (path : String) : IO Bool := do
  let here ← IO.currentDir
  { here with toString := path }.isDir

def hasEntry (path : String) : IO Bool := do
  let here ← IO.currentDir
  { here with toString := path }.pathExists

def readText (path : String) : IO (Except DiskFault String) := do
  match ← guarded (IO.FS.readBinFile path) with
  | .error fault => return .error fault
  | .ok bytes =>
    match String.fromUTF8? bytes with
    | none => return .error .notText
    | some text => return .ok text

def newIdentifier : IO Uuid := do
  let bytes ← IO.getRandomBytes 16
  let append := fun (bits : BitVec 128) (byte : UInt8) => bits <<< 8 ||| BitVec.ofNat 128 byte.toNat
  return .ofRandom (bytes.data.foldl append 0)

def now : IO Instant := do
  let nanoseconds := (← Std.Time.Timestamp.now).toNanosecondsSinceUnixEpoch.toInt
  return ⟨nanoseconds / 1000000000, (nanoseconds % 1000000000).toNat⟩

/-- A run of the program, which knows when it began, in milliseconds. -/
abbrev Run := ReaderT Nat IO

instance : Host Run where
  environment := readEnvironment
  pathExists path := hasEntry path
  isDirectory path := hasDirectory path
  list path := guarded (listNames path)
  read path := readText path
  write path content := guarded (IO.FS.writeFile path content)
  ensureAbove path :=
    match (Path.steps path).dropLast with
    | [] => return .ok ()
    | steps =>
      let start := if Path.isAbsolute path then "/" else ""
      guarded (IO.FS.createDirAll (start ++ "/".intercalate steps))
  stamp := return ⟨← newIdentifier, ← now, (← IO.monoMsNow) - (← read)⟩

end Gapfill

/-- The program: the exit code is 2 if the command line asks for nothing that there is. -/
def main (arguments : List String) : IO UInt32 := do
  let command : Gapfill.Run (Option Gapfill.Cli.Output) := Gapfill.Cli.run? arguments
  match ← command.run (← IO.monoMsNow) with
  | none =>
    IO.eprint Gapfill.Cli.usageText
    return 2
  | some output =>
    IO.print output.printed
    IO.eprint output.errorText
    return UInt32.ofNat output.exitCode
