import TelemetryGateway.Error
import TelemetryGateway.Message.Codec

/-!
# The cache of a target

The cache of a target holds the latest value of every leaf under the text of its path, two flags for
the state of the connection, and counters.  A notification is applied as a whole or, if one of its
updates has no path, not at all; its deletes come before its updates.
-/

namespace TelemetryGateway

/-- The latest value of a leaf and its time. -/
structure CachedValue where
  timestamp : Int64
  value : Option TypedValue
deriving DecidableEq, Inhabited

structure TargetCacheStats where
  connected : Bool
  synced : Bool
  leaves : UInt64
  updates : UInt64
  connects : UInt64
  disconnects : UInt64
deriving DecidableEq, Inhabited

/-- The leaves of one target. -/
structure TargetCache where
  name : String
  connected : Bool := false
  synced : Bool := false
  values : Dictionary CachedValue := ∅
  updates : UInt64 := 0
  connects : UInt64 := 0
  disconnects : UInt64 := 0
deriving DecidableEq, Inhabited

namespace CachedValue

open FieldReader Document

def decode : Decoder CachedValue := .record do
  let timestamp ← required "timestamp" .int64
  let value ← optionalByName "value" TypedValue.decode
  return { timestamp, value }

def encode (v : CachedValue) : Document :=
  .record (field "timestamp" (.int v.timestamp.toInt) ++
    field "value" (v.value.elim .null TypedValue.encode))

end CachedValue

namespace TargetCacheStats

open FieldReader Document

def decode : Decoder TargetCacheStats := .record do
  let connected ← required "connected" .bool
  let synced ← required "synced" .bool
  let leaves ← required "leaves" .uint64
  let updates ← required "updates" .uint64
  let connects ← required "connects" .uint64
  let disconnects ← required "disconnects" .uint64
  return { connected, synced, leaves, updates, connects, disconnects }

def encode (s : TargetCacheStats) : Document :=
  .record (field "connected" (.bool s.connected) ++ field "synced" (.bool s.synced) ++
    field "leaves" (.nat s.leaves.toNat) ++ field "updates" (.nat s.updates.toNat) ++
    field "connects" (.nat s.connects.toNat) ++ field "disconnects" (.nat s.disconnects.toNat))

end TargetCacheStats

namespace TargetCache

/-- The subscription has delivered its first message. -/
def connect (c : TargetCache) : TargetCache :=
  { c with connected := true, connects := c.connects + 1 }

/-- The subscription has ended. -/
def disconnect (c : TargetCache) : TargetCache :=
  { c with connected := false, synced := false, disconnects := c.disconnects + 1 }

/-- Forgets everything that the ended subscription has delivered. -/
def reset (c : TargetCache) : TargetCache := { c with values := ∅, synced := false }

def sync (c : TargetCache) : TargetCache := { c with synced := true }

/-! ## Notifications -/

/-- Whether a key names the root of a subtree or lies in it. -/
def liesUnder (key root : String) : Bool :=
  key == root || (root.toList ++ ['/']).isPrefixOf key.toList

/-- Removes the subtree below a rendered path; the path `/` stands for everything. -/
def removeSubtree (values : Dictionary CachedValue) (root : String) : Dictionary CachedValue :=
  if root = "/" then ∅ else values.filter (fun key _ => !liesUnder key root)

/-- The leaves of a notification as they are stored, in their order. -/
def storedLeaves (n : Notification) : List (String × CachedValue) :=
  n.update.map fun u => ((n.base.join u.path).render, ⟨n.timestamp, u.val⟩)

def deletedRoots (n : Notification) : List String :=
  n.delete.map fun d => (n.base.join d).render

/-- Whether some update of a notification resolves to the root. -/
def hasRootUpdate (n : Notification) : Bool :=
  n.update.any fun u => (n.base.join u.path).isRoot

/-- The leaves after a notification: its deletes first, then its updates. -/
def applyTo (values : Dictionary CachedValue) (n : Notification) : Dictionary CachedValue :=
  (storedLeaves n).foldl (fun vs leaf => vs.insert leaf.1 leaf.2)
    ((deletedRoots n).foldl removeSubtree values)

/-- Applies a notification as a whole, or refuses it. -/
def update (c : TargetCache) (n : Notification) : Except CacheError TargetCache :=
  if hasRootUpdate n then .error .emptyPath
  else .ok { c with values := applyTo c.values n, updates := c.updates + 1 }

def stats (c : TargetCache) : TargetCacheStats where
  connected := c.connected
  synced := c.synced
  leaves := UInt64.ofNat c.values.size
  updates := c.updates
  connects := c.connects
  disconnects := c.disconnects

end TargetCache

end TelemetryGateway
