import TelemetryGateway.Message.Path

/-!
# Subscribe requests

What a gateway asks of a device: the paths to stream and how to stream them.
-/

namespace TelemetryGateway

inductive ListMode where
  | stream
  | once
  | poll
deriving DecidableEq, Inhabited

/-- When the values of one path are sent. -/
inductive SubscriptionMode where
  | targetDefined
  | onChange
  | sample
deriving DecidableEq, Inhabited

inductive Encoding where
  | json
  | bytes
  | proto
  | ascii
  | jsonIetf
deriving DecidableEq, Inhabited

/-- One path of a subscription list; the intervals are in nanoseconds. -/
structure Subscription where
  path : Path
  mode : SubscriptionMode := .targetDefined
  sampleInterval : UInt64 := 0
  suppressRedundant : Bool := false
  heartbeatInterval : UInt64 := 0
deriving DecidableEq, Inhabited

/-- The paths to subscribe to, relative to an optional prefix path. -/
structure SubscriptionList where
  prefixPath : Option Path := none
  subscription : List Subscription := []
  mode : ListMode := .stream
  encoding : Encoding := .json
  updatesOnly : Bool := false
deriving DecidableEq, Inhabited

/-- A request template; without a list it cannot open a stream. -/
structure SubscribeRequest where
  subscribe : Option SubscriptionList := none
deriving DecidableEq, Inhabited

namespace SubscriptionList

/-- The list with a target designator: its own if it has one, else the given name. -/
def addressedTo (l : SubscriptionList) (name : String) : SubscriptionList :=
  let base := l.prefixPath.getD {}
  { l with prefixPath := some (if base.target.isEmpty then base.withTarget name else base) }

end SubscriptionList

namespace SubscribeRequest

/-- The request to stream some paths, everything else left to its default. -/
def stream (paths : List Path) : SubscribeRequest :=
  ⟨some { subscription := paths.map fun path => { path } }⟩

end SubscribeRequest

end TelemetryGateway
