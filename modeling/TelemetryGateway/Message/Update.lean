import TelemetryGateway.Message.Path
import TelemetryGateway.Binary64

/-!
# Updates and notifications

A device reports changes in notifications: new values for leaves and deleted subtrees, all relative
to one prefix path.
-/

namespace TelemetryGateway

inductive TypedValue where
  | text (value : String)
  | int (value : Int64)
  | uint (value : UInt64)
  | bool (value : Bool)
  | double (value : Binary64)
  | bytes (value : List UInt8)
  | json (value : String)
deriving DecidableEq, Inhabited

/-- A new value for the leaf at a path, with the number of duplicates that were coalesced. -/
structure Update where
  path : Path
  val : Option TypedValue := none
  duplicates : UInt32 := 0
deriving DecidableEq, Inhabited

/-- A batch of updates and deletes under one prefix path, with the time of the batch in nanoseconds
since the epoch. -/
structure Notification where
  timestamp : Int64 := 0
  prefixPath : Option Path := none
  update : List Update := []
  delete : List Path := []
  atomic : Bool := false
deriving DecidableEq, Inhabited

namespace Update

def ofValue (path : Path) (value : TypedValue) : Update := { path, val := some value }

end Update

namespace Notification

/-- The prefix path, the root where none is given. -/
def base (n : Notification) : Path := n.prefixPath.getD {}

/-- The target designator of the prefix path, if there is one. -/
def target? (n : Notification) : Option String :=
  n.prefixPath.bind (fun p => if p.target.isEmpty then none else some p.target)

/-- Whether there are neither updates nor deletes. -/
def isEmpty (n : Notification) : Bool := n.update.isEmpty && n.delete.isEmpty

/-- The notification with a target designator: its own if it has one, else the given name. -/
def addressedTo (n : Notification) (name : String) : Notification :=
  { n with
    prefixPath := some (if n.base.target.isEmpty then n.base.withTarget name else n.base) }

end Notification

end TelemetryGateway
