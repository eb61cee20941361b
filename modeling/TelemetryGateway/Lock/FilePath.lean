/-!
# Lock files and their paths

The lock of a target is a file in the lock directory.  Its name is the name of the target with every
character that is no ASCII letter, digit, dot, dash or underscore replaced, so that it is always the
name of one file; beside it lies a sidecar that tells who holds the lock.

A path is a text, read part by part between its slashes.  A slash at the beginning stands for the
root; an empty part elsewhere stands for nothing, nor does a dot unless the path begins with it; two
dots lead up.  Nothing is looked up, so a part that leads up is kept as it stands.  Paths with the
same parts are the same path.  The path of a sidecar is made from that of its lock file.
-/

namespace TelemetryGateway

namespace LockFile

/-! ## Names -/

/-- Whether a character may stand in a file name. -/
def isPlain (c : Char) : Bool := c.isAlphanum || c == '.' || c == '-' || c == '_'

/-- A text with every other character replaced by an underscore. -/
def sanitize (target : String) : String :=
  String.ofList (target.toList.map fun c => if isPlain c then c else '_')

def name (target : String) : String := sanitize target ++ ".lock"

def sidecar (lockName : String) : String := lockName ++ ".meta.json"

/-- The largest number of bytes in the name of a file. -/
def maxNameBytes : Nat := 255

/-- Whether a directory can have an entry of this name. -/
def isEntryName (name : String) : Bool :=
  name != "" && name != "." && name != ".." && name.utf8ByteSize ≤ maxNameBytes &&
    !name.toList.contains '/' && !name.toList.contains '\x00'

end LockFile

/-! ## Paths -/

/-- One part of a path. -/
inductive PathPart where
  /-- Where every absolute path begins. -/
  | root
  /-- A dot at the beginning of a path. -/
  | here
  | up
  | entry (name : String)
deriving DecidableEq

/-- A path as it is written. -/
structure FilePath where
  chars : List Char
deriving DecidableEq

namespace FilePath

def ofText (text : String) : FilePath := ⟨text.toList⟩

/-- Whether a path begins at the root. -/
def isAbsolute (p : FilePath) : Bool := p.chars.head? == some '/'

/-- The texts between the slashes. -/
def pieces (p : FilePath) : List (List Char) := p.chars.splitOn '/'

/-- What a text between two slashes stands for, if it stands for anything. -/
def partOf? (piece : List Char) : Option PathPart :=
  if piece = [] ∨ piece = ['.'] then none
  else if piece = ['.', '.'] then some .up
  else some (.entry (String.ofList piece))

/-- What only the beginning of a path can stand for. -/
def lead (p : FilePath) : List PathPart :=
  if p.isAbsolute then [.root] else if p.pieces.head? = some ['.'] then [.here] else []

def parts (p : FilePath) : List PathPart := p.lead ++ p.pieces.filterMap partOf?

/-- The name of the entry that a path ends with. -/
def fileName? (p : FilePath) : Option String :=
  match p.parts.getLast? with
  | some (.entry name) => some name
  | _ => none

/-- The beginnings of the text of a path, from the shortest to the whole. -/
def beginnings (p : FilePath) : List FilePath :=
  (List.range (p.chars.length + 1)).map fun n => ⟨p.chars.take n⟩

/-- A path without its last part, in as few characters as will do.  Nothing is above the root. -/
def parent? (p : FilePath) : Option FilePath :=
  match p.parts.getLast? with
  | none | some .root => none
  | some _ => p.beginnings.find? fun q => q.parts == p.parts.dropLast

/-- A path as seen from a directory.  An absolute path is the same from everywhere. -/
def join (dir p : FilePath) : FilePath :=
  if p.isAbsolute then p
  else if dir.chars = [] ∨ dir.chars.getLast? = some '/' then ⟨dir.chars ++ p.chars⟩
  else ⟨dir.chars ++ '/' :: p.chars⟩

/-- A path with another name in the place of the one that it ends with; a path that does not end
with a name goes on with it. -/
def withFileName (p : FilePath) (name : String) : FilePath :=
  match p.fileName? with
  | some _ => (p.parent?.getD p).join (ofText name)
  | none => p.join (ofText name)

end FilePath

/-! ## The paths of a lock file and its sidecar -/

namespace LockFile

def path (dir : FilePath) (target : String) : FilePath := dir.join (.ofText (name target))

def sidecarPath (lock : FilePath) : FilePath :=
  lock.withFileName (sidecar (lock.fileName?.getD "lock"))

end LockFile

end TelemetryGateway
