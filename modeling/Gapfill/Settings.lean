import Gapfill.Compiled
import Gapfill.Disk.Host
import Gapfill.Number.Count
import Gapfill.Environment
import Gapfill.Text.Blank
import Gapfill.Toml.Document

/-!
# Settings

Limits for patterns and answers, the directory for reports, and how they are printed. They come
from a TOML document, whose texts may refer to variables; two variables override what it says.
Without a path the document is looked for in the current directory and then in the user's own.

References that bring themselves are replaced without end, and then there are no settings. This is
kept apart from the faults of a document: `unfinished` says that so far no answer has come.
-/

namespace Gapfill

/-- What can be set for a run. -/
structure Settings where
  limits : Limits
  /-- The directory for reports. -/
  outputDirectory : String
  /-- How results are printed: `text` or `json`. -/
  format : String
deriving DecidableEq

def Settings.default : Settings := ⟨.default, "./clozematch-results", "text"⟩

/-- Why there are no settings. -/
inductive SettingsError where
  | missing (path : String)
  | unreadable (path : String) (fault : DiskFault)
  | malformed (path : String)
  | unfinished (path : String)
  | badSizeLimit (text : String) (fault : CountFault)
deriving DecidableEq

namespace SettingsError

def message : SettingsError → String
  | missing path => "config file not found: " ++ path
  | unreadable path _ => "failed to read config: " ++ path
  | malformed path => "failed to parse config: " ++ path
  | unfinished path => "references are still being replaced: " ++ path
  | badSizeLimit text _ => "CLOZEMATCH_SIZE_LIMIT is not a byte count: " ++ text

def messages (e : SettingsError) : List String :=
  match e with
  | missing _ => [e.message]
  | unreadable _ fault => [e.message, fault.message]
  | malformed _ => [e.message, "TOML parse error"]
  | unfinished _ => [e.message]
  | badSizeLimit _ fault => [e.message, fault.message]

end SettingsError

namespace Settings

/-! ## From a document -/

/-- Reads limits; one that is not given has its default. -/
def limitsOf? (value : Toml.Value) : Option Limits := do
  let record ← value.record? ["size_limit", "dfa_size_limit", "max_candidate_len"]
  return ⟨← record.optional? "size_limit" Toml.Value.nat? Limits.default.programSize,
    ← record.optional? "dfa_size_limit" Toml.Value.nat? Limits.default.cacheSize,
    ← record.optional? "max_candidate_len" Toml.Value.nat? Limits.default.answerLength⟩

/-- Reads a document, and leaves the references in its texts as they are. -/
def ofToml? (document : String) : Option Settings := do
  let root ← Toml.parse document
  return ⟨← root.optional? "engine" limitsOf? .default,
    ← root.optional? "output_dir" Toml.Value.string? default.outputDirectory,
    ← root.optional? "default_format" Toml.Value.string? default.format⟩

/-- The settings with values for the references in their texts, if these come to an end. -/
def expand? (environment : Environment) (settings : Settings) : Option Settings := do
  return { settings with
    outputDirectory := ← Reference.expandText? environment settings.outputDirectory
    format := ← Reference.expandText? environment settings.format }

/-! ## Overrides -/

/-- The settings with what variables say in place of the document. -/
def override (environment : Environment) (settings : Settings) : Except SettingsError Settings :=
  let settings : Except SettingsError Settings :=
    match environment.lookup "CLOZEMATCH_SIZE_LIMIT" with
    | none => .ok settings
    | some text =>
      match readCount (trim text.toList) with
      | .error fault => .error (.badSizeLimit text fault)
      | .ok size => .ok { settings with limits := { settings.limits with programSize := size } }
  match environment.lookup "CLOZEMATCH_OUTPUT_DIR" with
  | none => settings
  | some directory => settings.map fun settings => { settings with outputDirectory := directory }

/-! ## Where they are -/

def localPath : String := "clozematch.toml"

def userPath? (environment : Environment) : Option String :=
  (environment.lookup "HOME").map fun home =>
    [".config", "clozematch", "config.toml"].foldl Path.join home

variable {m : Type → Type} [Monad m] [Host m]

/-- The document to read: the one at the path, or the first of the usual ones that is there. -/
def find (environment : Environment) : Option String → m (Except SettingsError (Option String))
  | some path => return if ← Host.pathExists path then .ok (some path) else .error (.missing path)
  | none => do
    if ← Host.pathExists localPath then return .ok (some localPath)
    match userPath? environment with
    | none => return .ok none
    | some path => return .ok (if ← Host.pathExists path then some path else none)

def readAt (environment : Environment) (path : String) : m (Except SettingsError Settings) := do
  match ← Host.read path with
  | .error fault => return .error (.unreadable path fault)
  | .ok document =>
    match ofToml? document with
    | none => return .error (.malformed path)
    | some settings =>
      match settings.expand? environment with
      | none => return .error (.unfinished path)
      | some settings => return .ok settings

def load (path? : Option String) : m (Except SettingsError Settings) := do
  let environment ← Host.environment
  match ← find environment path? with
  | .error e => return .error e
  | .ok none => return override environment default
  | .ok (some path) =>
    match ← readAt environment path with
    | .error e => return .error e
    | .ok settings => return override environment settings

end Settings

end Gapfill
