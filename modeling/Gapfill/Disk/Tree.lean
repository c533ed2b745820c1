import Gapfill.Disk.Path
import Gapfill.Number.Digits

/-!
# Files and directories

`Entry` is a tree of directories with files in them, and a `Disk` is such a tree together with the
directory from which paths start. Looking up a path follows its names one by one, and every
one of them but the last has to be that of a directory. What is written to a file is text, but a
file that is read may have other bytes in it.
-/

namespace Gapfill

/-- What is in a file: a text, or bytes that encode none. -/
inductive Content where
  | text (text : String)
  | binary (bytes : ByteArray) (noText : ¬ bytes.IsValidUTF8)

instance : Coe String Content := ⟨.text⟩

inductive Entry where
  | file (content : Content)
  | directory (entries : List (String × Entry))

/-- Why a file or directory cannot be used. -/
inductive DiskFault where
  | missing
  | alreadyExists
  | notADirectory
  | isADirectory
  | nameTooLong
  | badName
  | notText
  /-- A fault of another kind, with its wording. -/
  | other (message : String)
deriving DecidableEq

def DiskFault.message : DiskFault → String
  | missing => "No such file or directory (os error 2)"
  | alreadyExists => "File exists (os error 17)"
  | notADirectory => "Not a directory (os error 20)"
  | isADirectory => "Is a directory (os error 21)"
  | nameTooLong => "File name too long (os error 36)"
  | badName => "file name contained an unexpected NUL byte"
  | notText => "stream did not contain valid UTF-8"
  | other message => message

namespace Entry

/-! ## Looking and changing -/

/-- The entry that a list of names leads to. -/
def at? : List String → Entry → Option Entry
  | [], entry => some entry
  | name :: rest, directory entries => (entries.lookup name).bind (at? rest)
  | _ :: _, file _ => none

/-- Puts an entry under a name, in place of the one that is there. -/
def setIn (name : String) (entry : Entry) : List (String × Entry) → List (String × Entry)
  | [] => [(name, entry)]
  | (n, e) :: rest => if n == name then (n, entry) :: rest else (n, e) :: setIn name entry rest

/-- Puts an entry where a list of names leads to; directories on the way come about. -/
def insert (new : Entry) : List String → Entry → Entry
  | [], _ => new
  | name :: rest, directory entries =>
    directory (setIn name (insert new rest ((entries.lookup name).getD (directory []))) entries)
  | _ :: _, file content => file content

end Entry

/-! ## Paths from a directory -/

/-- A tree, and the directory in it from which paths start. -/
structure Disk where
  root : Entry
  /-- The names that lead to the directory. -/
  here : List String

namespace Disk

/-- The longest name, in bytes. -/
def maxName : Nat := 255

/-- The longest path, in bytes. -/
def maxPath : Nat := 4095

/-- Follows names from a place in the tree. The place that is reached may be empty. -/
def follow (root : Entry) (place : List String) : List String → Except DiskFault (List String)
  | [] => .ok place
  | name :: rest =>
    match root.at? place with
    | none => .error .missing
    | some (.file _) => .error .notADirectory
    | some (.directory _) =>
      if name == "." then follow root place rest
      else if name == ".." then follow root place.dropLast rest
      else if maxName < utf8Length name.toList then .error .nameTooLong
      else follow root (place ++ [name]) rest

/-- The place that names lead to, from the root or from here. -/
def locate (disk : Disk) (absolute : Bool) (names : List String) : Except DiskFault (List String) :=
  follow disk.root (if absolute then [] else disk.here) names

/-- The place that a path leads to. -/
def resolve (disk : Disk) (path : String) : Except DiskFault (List String) :=
  if path.toList.contains '\x00' then .error .badName
  else if path.isEmpty then .error .missing
  else if maxPath < utf8Length path.toList then .error .nameTooLong
  else disk.locate (Path.isAbsolute path) (Path.names path)

def entry (disk : Disk) (path : String) : Except DiskFault Entry :=
  match disk.resolve path with
  | .error fault => .error fault
  | .ok place =>
    match disk.root.at? place with
    | none => .error .missing
    | some entry => .ok entry

def read (disk : Disk) (path : String) : Except DiskFault String :=
  match disk.entry path with
  | .error fault => .error fault
  | .ok (.directory _) => .error .isADirectory
  | .ok (.file (.binary _ _)) => .error .notText
  | .ok (.file (.text text)) => .ok text

def pathExists (disk : Disk) (path : String) : Bool := (disk.entry path).toOption.isSome

def isDirectory (disk : Disk) (path : String) : Bool :=
  match disk.entry path with
  | .ok (.directory _) => true
  | _ => false

def list (disk : Disk) (path : String) : Except DiskFault (List String) :=
  match disk.entry path with
  | .error fault => .error fault
  | .ok (.file _) => .error .notADirectory
  | .ok (.directory entries) => .ok (entries.map Prod.fst)

/-- Puts a text into a file, which may be new. -/
def write (disk : Disk) (path text : String) : Except DiskFault Disk :=
  match disk.resolve path with
  | .error fault => .error fault
  | .ok place =>
    match disk.root.at? place with
    | some (.directory _) => .error .isADirectory
    | _ => .ok { disk with root := Entry.insert (.file (.text text)) place disk.root }

/-- Makes a directory in one that is there. -/
def makeDirectory (disk : Disk) (absolute : Bool) (names : List String) : Except DiskFault Disk :=
  match disk.locate absolute names with
  | .error fault => .error fault
  | .ok place =>
    match disk.root.at? place with
    | some _ => .error .alreadyExists
    | none => .ok { disk with root := Entry.insert (.directory []) place disk.root }

def leadsToDirectory (disk : Disk) (absolute : Bool) (names : List String) : Bool :=
  match disk.locate absolute names with
  | .error _ => false
  | .ok place =>
    match disk.root.at? place with
    | some (.directory _) => true
    | _ => false

/-- Makes a directory unless it is there. -/
def ensureDirectory (disk : Disk) (absolute : Bool) (names : List String) : Except DiskFault Disk :=
  match disk.makeDirectory absolute names with
  | .ok disk => .ok disk
  | .error fault => if disk.leadsToDirectory absolute names then .ok disk else .error fault

/-- Makes a directory, and first those above it that are missing. The names are given from the
last to the first. If this fails, what has been made so far is there. -/
def ensureDirectories (disk : Disk) (absolute : Bool) : List String → Except DiskFault Unit × Disk
  | [] => (.ok (), disk)
  | last :: above =>
    match disk.ensureDirectory absolute (above.reverse ++ [last]) with
    | .ok disk => (.ok (), disk)
    | .error .missing =>
      match disk.ensureDirectories absolute above with
      | (.error fault, disk) => (.error fault, disk)
      | (.ok (), disk) =>
        match disk.ensureDirectory absolute (above.reverse ++ [last]) with
        | .ok disk => (.ok (), disk)
        | .error fault => (.error fault, disk)
    | .error fault => (.error fault, disk)

/-- Makes the directories that lead to the file at a path. If this fails, some of them may have been
made. -/
def ensureAbove (disk : Disk) (path : String) : Except DiskFault Unit × Disk :=
  let above := (Path.steps path).dropLast
  if above.any fun name => name.toList.contains '\x00' then (.error .badName, disk)
  else if maxPath < Path.aboveLength path then (.error .nameTooLong, disk)
  else disk.ensureDirectories (Path.isAbsolute path) above.reverse

end Disk

end Gapfill
