import TelemetryGateway.Lock.Directory

/-!
# Lock services

Connections take the lock of their target from either of two backends in the same way: they get a
gate, try to take it, and give it back.  One backend is a lock directory, which processes share.

The other one is a registry within a process, which records which names are held.  A gate also
records for itself whether it owns the lock, so that giving back a lock that it does not own changes
nothing.
-/

namespace TelemetryGateway

/-! ## Locks within a process -/

/-- A handle on the lock of one name. -/
structure LocalGate where
  target : String
  owned : Bool := false
deriving DecidableEq, Inhabited

/-- The names held, and all gates in the order in which they were made. -/
structure LockRegistry where
  held : List String := []
  gates : List LocalGate := []
deriving DecidableEq, Inhabited

namespace LockRegistry

def isHeld (r : LockRegistry) (target : String) : Bool := r.held.contains target

/-- Makes a gate; the result is its number. -/
def gate (r : LockRegistry) (target : String) : Nat × LockRegistry :=
  (r.gates.length, { r with gates := r.gates ++ [{ target }] })

/-- Tries to take the lock of a gate; tells whether the gate owns it then. -/
def tryAcquire (r : LockRegistry) (gate : Nat) : Bool × LockRegistry :=
  match r.gates[gate]? with
  | none => (false, r)
  | some g =>
      if g.owned then (true, r)
      else if r.isHeld g.target then (false, r)
      else
        (true, ⟨g.target :: r.held, r.gates.set gate { g with owned := true }⟩)

/-- Gives back the lock of a gate if the gate owns it. A gate that goes out of use does the same. -/
def unlock (r : LockRegistry) (gate : Nat) : LockRegistry :=
  match r.gates[gate]? with
  | none => r
  | some g =>
      if g.owned then
        ⟨r.held.filter (· != g.target), r.gates.set gate { g with owned := false }⟩
      else r

end LockRegistry

/-! ## Either backend -/

/-- A lock backend with its state. -/
inductive LockService where
  | registry (r : LockRegistry)
  | directory (d : LockDirectory)

namespace LockService

def gate (target : String) : LockService → Nat × LockService
  | .registry r => let (g, r) := r.gate target; (g, .registry r)
  | .directory d => let (g, d) := d.gate target; (g, .directory d)

def tryAcquire (gate : Nat) : LockService → Bool × LockService
  | .registry r => let (b, r) := r.tryAcquire gate; (b, .registry r)
  | .directory d => let (b, d) := d.tryAcquire gate; (b, .directory d)

def unlock (gate : Nat) : LockService → LockService
  | .registry r => .registry (r.unlock gate)
  | .directory d => .directory (d.unlock gate)

end LockService

end TelemetryGateway
