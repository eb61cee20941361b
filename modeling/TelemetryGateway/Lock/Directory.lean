import TelemetryGateway.Error
import TelemetryGateway.Lock.Folders
import TelemetryGateway.Lock.Metadata

/-!
# Locks as files

A lock directory holds one lock file per target.  Whoever has such a file open and locked holds the
lock of the target; a lock belongs to the open file, so two gates exclude each other also within one
process.  A lock file is made when it is first needed and stays; the sidecar beside it is written
when the lock is taken and removed when it is given back.

Entries are modelled with the identity of the file behind them: a gate that holds a file goes on
holding it when the entry is removed, and a file made later under the same name is another one.
-/

namespace TelemetryGateway

inductive DirectoryEntry where
  | file (id : Nat) (content : String)
  | folder
deriving DecidableEq

/-- A handle on the lock file of one target; it has the file that it holds locked. -/
structure FileGate where
  target : String
  file : Option Nat := none
deriving DecidableEq

/-- A lock directory as the gates of one process see it.  There are no entries while the directory
does not exist. -/
structure LockDirectory where
  entries : Option (Dictionary DirectoryEntry) := some ∅
  gates : List FileGate := []
  /-- The identity of the next file that is made. -/
  nextFile : Nat := 0
  pid : UInt32
  /-- The time, in seconds since the epoch. -/
  clock : UInt64
  /-- The folders in the directory that its own path leads through: they are there whenever the
  directory has been made. -/
  passages : List String := []
  /-- Whether the path of the directory ends in a dot; then it does not name an entry that could be
  removed. -/
  endsInDot : Bool := false
deriving DecidableEq

namespace LockDirectory

/-! ## Entries -/

def folderEntries (names : List String) : Dictionary DirectoryEntry :=
  names.foldl (fun entries name => entries.insert name .folder) ∅

/-- Makes the directory if it does not exist. -/
def create (d : LockDirectory) : LockDirectory :=
  { d with entries := some (d.entries.getD (folderEntries d.passages)) }

def entry? (d : LockDirectory) (name : String) : Option DirectoryEntry :=
  d.entries.bind (·.get? name)

/-- The names of the entries, `none` if the directory does not exist. -/
def files (d : LockDirectory) : Option (List String) := d.entries.map (·.keys)

def setEntry (d : LockDirectory) (name : String) (e : DirectoryEntry) : LockDirectory :=
  { d with entries := d.entries.map (·.insert name e) }

/-- Opens a file for writing, making it if needed; the result is its identity. -/
def openFile (d : LockDirectory) (name : String) : Option (Nat × LockDirectory) :=
  if d.entries.isSome && LockFile.isEntryName name then
    match d.entry? name with
    | some (.file id _) => some (id, d)
    | some .folder => none
    | none => some (d.nextFile, { d.setEntry name (.file d.nextFile "") with
        nextFile := d.nextFile + 1 })
  else none

/-- Writes a whole file; tells whether it could. -/
def writeFile (d : LockDirectory) (name content : String) : Bool × LockDirectory :=
  match d.openFile name with
  | some (id, d) => (true, d.setEntry name (.file id content))
  | none => (false, d)

/-- Makes a folder; tells whether it could. -/
def makeFolder (d : LockDirectory) (name : String) : Bool × LockDirectory :=
  if d.entries.isSome && LockFile.isEntryName name && (d.entry? name).isNone then
    (true, d.setEntry name .folder)
  else (false, d)

/-- Removes a file; tells whether there was one.  A folder stays. -/
def removeFile (d : LockDirectory) (name : String) : Bool × LockDirectory :=
  match d.entry? name with
  | some (.file _ _) => (true, { d with entries := d.entries.map (·.erase name) })
  | _ => (false, d)

/-- Removes everything in the directory and then the directory itself; tells whether both could be
done.  Where the path leads through the directory it leads nowhere once that is empty, which is as
good as having removed it. -/
def removeAll (d : LockDirectory) : Bool × LockDirectory :=
  match d.entries with
  | none => (false, d)
  | some _ =>
      if d.endsInDot && d.passages.isEmpty then (false, { d with entries := some ∅ })
      else (true, { d with entries := none })

/-! ## Gates -/

def isLocked (d : LockDirectory) (file : Nat) : Bool :=
  d.gates.any (fun g => g.file == some file)

/-- Makes a gate; the result is its number. -/
def gate (d : LockDirectory) (target : String) : Nat × LockDirectory :=
  (d.gates.length, { d with gates := d.gates ++ [{ target }] })

/-- What this process writes about a lock that it takes now. -/
def metadataFor (d : LockDirectory) (target : String) : LockMetadata :=
  ⟨d.pid, target, d.clock, gatewayVersion⟩

/-- Tries to take the lock of a gate; tells whether the gate holds it then. Where the sidecar cannot
be written the lock is given up again. -/
def tryAcquire (d : LockDirectory) (gate : Nat) : Bool × LockDirectory :=
  match d.gates[gate]? with
  | none => (false, d)
  | some g =>
      if g.file.isSome then (true, d)
      else
        match d.openFile (LockFile.name g.target) with
        | none => (false, d)
        | some (id, d) =>
            if d.isLocked id then (false, d)
            else
              match d.writeFile (LockFile.sidecar (LockFile.name g.target))
                  (d.metadataFor g.target).render with
              | (true, d) => (true, { d with gates := d.gates.set gate { g with file := some id } })
              | (false, d) => (false, d)

/-- Gives back the lock of a gate if it holds it.  A gate that goes out of use does the same. -/
def unlock (d : LockDirectory) (gate : Nat) : LockDirectory :=
  match d.gates[gate]? with
  | none => d
  | some g =>
      if g.file.isSome then
        let d := (d.removeFile (LockFile.sidecar (LockFile.name g.target))).2
        { d with gates := d.gates.set gate { g with file := none } }
      else d

/-- What is written about the holder of a target's lock, if it is held. -/
def holder? (d : LockDirectory) (target : String) : Option LockMetadata :=
  match d.entry? (LockFile.name target) with
  | some (.file id _) =>
      if d.isLocked id then
        match d.entry? (LockFile.sidecar (LockFile.name target)) with
        | some (.file _ content) => LockMetadata.parse? content
        | _ => none
      else none
  | _ => none

/-! ## Where the directory lies -/

def pathSteps (path : String) : List String :=
  ((FilePath.ofText path).pieces.map String.ofList).filter (· != "")

/-- The lock directory at a relative path below a directory that holds nothing but, possibly, one
regular file.  It is made with all directories on its path.  An absolute path leads elsewhere, where
none can be made. -/
def below (obstacle : Option String) (path : String) (pid : UInt32) (clock : UInt64) :
    Except LockError LockDirectory :=
  let steps := pathSteps path
  let made := do
    let folders ← ({ obstacle } : Folders).makeAll steps
    return (folders, ← folders.follow [] steps)
  match made with
  | .ok (folders, place) =>
      if (FilePath.ofText path).isAbsolute then .error (.io "the lock directory cannot be created")
      else
        let passages := folders.inside place
        let entries :=
          match place, obstacle with
          | [], some name => (folderEntries passages).insert name (.file 0 "")
          | _, _ => folderEntries passages
        .ok {
          entries := some entries, nextFile := 1, pid, clock, passages,
          endsInDot := steps.getLast? = some "." }
  | .error _ => .error (.io "the lock directory cannot be created")

end LockDirectory

end TelemetryGateway
