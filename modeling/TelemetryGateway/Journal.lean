import TelemetryGateway.Connection.Phase
import TelemetryGateway.Denylist
import TelemetryGateway.Error

/-!
# The journal

What connections and their supervisor report about a target.  Every entry has a level, a fixed
message and at most one detail.
-/

namespace TelemetryGateway

inductive Severity where
  | info
  | warn
  | error
deriving DecidableEq, Inhabited

inductive Occurrence where
  | lockAcquired
  | lockReleased
  | loopStopped
  | connecting
  | subscriptionClosed (reason : String)
  | stopping (phase : Phase)
  | reconnecting
  | disconnected
  | connected
  | subscribeFailed (error : GatewayError)
  | responseFailed (error : GatewayError)
  | updateDropped (rejection : Rejection)
  | queryFailed (error : GatewayError)
  | targetAdded
  | targetChanged
  | targetRemoved
  | shuttingDown
  | taskAborted (grace : Duration)
deriving DecidableEq

/-- An entry of the journal; the target is empty for what concerns all of them. -/
structure JournalEntry where
  target : String
  occurrence : Occurrence
deriving DecidableEq

namespace Severity

def name : Severity → String
  | .info => "INFO"
  | .warn => "WARN"
  | .error => "ERROR"

end Severity

namespace Occurrence

def severity : Occurrence → Severity
  | .subscribeFailed _ | .responseFailed _ | .updateDropped _ | .taskAborted _ => .warn
  | .queryFailed _ => .error
  | _ => .info

def message : Occurrence → String
  | .lockAcquired => "Acquired target lock"
  | .lockReleased => "Released target lock"
  | .loopStopped => "Target connection stopped"
  | .connecting => "Connecting to target"
  | .subscriptionClosed _ => "Subscription closed"
  | .stopping _ => "Stopping target connection"
  | .reconnecting => "Reconnecting to target"
  | .disconnected => "Target disconnected"
  | .connected => "Target connected"
  | .subscribeFailed _ => "Subscribe failed"
  | .responseFailed _ => "Closing subscription after response error"
  | .updateDropped _ => "Dropping malformed update"
  | .queryFailed _ => "Failed to build subscription query"
  | .targetAdded => "Added target"
  | .targetChanged => "Target changed; restarting connection"
  | .targetRemoved => "Removed target"
  | .shuttingDown => "Shutting down target supervisor"
  | .taskAborted _ => "Target task did not stop in time; aborting"

def detail? : Occurrence → Option String
  | .subscriptionClosed reason => some reason
  | .stopping phase => some phase.name
  | .subscribeFailed e | .responseFailed e | .queryFailed e => some e.message
  | .updateDropped r => some r.message
  | .taskAborted grace => some grace.render
  | _ => none

end Occurrence

end TelemetryGateway
