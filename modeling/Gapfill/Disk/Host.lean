import Gapfill.Calendar
import Gapfill.Disk.Tree
import Gapfill.Environment
import Gapfill.Uuid

/-!
# What a run needs from outside

Commands are written over `Host`, the few things that they ask of the world. `Machine` is a world
that is a value: running a command there is a function from one such value to the next.
-/

namespace Gapfill

/-- What marks a report: its identifier, the time, and how long the run has taken. -/
structure Stamp where
  id : Uuid
  time : Instant
  milliseconds : Nat
deriving DecidableEq

/-- Access to files, variables and the clock. -/
class Host (m : Type → Type) where
  environment : m Environment
  pathExists (path : String) : m Bool
  isDirectory (path : String) : m Bool
  /-- The names in a directory. -/
  list (path : String) : m (Except DiskFault (List String))
  read (path : String) : m (Except DiskFault String)
  write (path content : String) : m (Except DiskFault Unit)
  /-- Makes the directories that lead to the file at a path. Some may be there if it fails. -/
  ensureAbove (path : String) : m (Except DiskFault Unit)
  stamp : m Stamp

/-- A world as a value. -/
structure Machine where
  disk : Disk
  environment : Environment
  stamp : Stamp

namespace Machine

/-- Changes the files, unless that fails. -/
def change (f : Disk → Except DiskFault Disk) : StateM Machine (Except DiskFault Unit) := do
  let machine ← get
  match f machine.disk with
  | .error fault => return .error fault
  | .ok disk =>
    set { machine with disk }
    return .ok ()

/-- Changes the files step by step. What has been changed stays so if a later step fails. -/
def changeEach (f : Disk → Except DiskFault Unit × Disk) : StateM Machine (Except DiskFault Unit) :=
  modifyGet fun machine =>
    let (result, disk) := f machine.disk
    (result, { machine with disk })

instance : Host (StateM Machine) where
  environment := return (← get).environment
  pathExists path := return (← get).disk.pathExists path
  isDirectory path := return (← get).disk.isDirectory path
  list path := return (← get).disk.list path
  read path := return (← get).disk.read path
  write path content := change fun disk => disk.write path content
  ensureAbove path := changeEach fun disk => disk.ensureAbove path
  stamp := return (← get).stamp

end Machine

end Gapfill
