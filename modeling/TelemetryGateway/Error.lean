import TelemetryGateway.Config.Fault
import TelemetryGateway.Duration

/-!
# Errors of the gateway

Everything that can go wrong with a target, its connection or the configuration, with one text for
each.  Most errors end only the current attempt; a loop that runs twice and a configuration that
cannot be used are not worth another try.
-/

namespace TelemetryGateway

inductive CacheError where
  /-- The path of an update, joined to the prefix path, has no elements. -/
  | emptyPath
deriving DecidableEq, Inhabited

inductive LockError where
  | io (reason : String)
  | metadata (reason : String)
deriving DecidableEq

inductive GatewayError where
  | alreadyRunning (target : String)
  | invalidRequest (reason : String)
  | invalidQuery (target reason : String)
  | dial (target reason : String)
  | dialTimeout (target : String) (timeout : Duration)
  | transport (reason : String)
  | peerError (target message : String)
  | unrecognizedResponse (target : String)
  | cache (error : CacheError)
  | lock (error : LockError)
  | config (reason : String)
  | io (reason : String)
  | toml
  | json
deriving DecidableEq

namespace CacheError

def message : CacheError → String
  | .emptyPath => "update has an empty path"

end CacheError

namespace LockError

def message : LockError → String
  | .io reason => "lock I/O error: " ++ reason
  | .metadata reason => "metadata error: " ++ reason

end LockError

namespace GatewayError

def message : GatewayError → String
  | .alreadyRunning target => "Acquisition loop already running for target " ++ target
  | .invalidRequest reason => "Invalid subscribe request: " ++ reason
  | .invalidQuery target reason => "Invalid query for target " ++ target ++ ": " ++ reason
  | .dial target reason => "Dial failed for target " ++ target ++ ": " ++ reason
  | .dialTimeout target timeout =>
      "Dial to target " ++ target ++ " timed out after " ++ timeout.render
  | .transport reason => "Transport error: " ++ reason
  | .peerError target message => "Error in response from " ++ target ++ ": " ++ message
  | .unrecognizedResponse target => "Unrecognized response from " ++ target
  | .cache e => "Target cache update error: " ++ e.message
  | .lock e => "Lock error: " ++ e.message
  | .config reason => "Configuration error: " ++ reason
  | .io reason => "I/O error: " ++ reason
  | .toml => "TOML error"
  | .json => "JSON error"

/-- Whether the error ends only the current attempt. -/
def isRetryable : GatewayError → Bool
  | .alreadyRunning _ | .config _ | .io _ | .toml | .json => false
  | _ => true

def ofFault (fault : ConfigFault) : GatewayError := .config fault.reason

end GatewayError

end TelemetryGateway
