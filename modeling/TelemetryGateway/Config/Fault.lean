import TelemetryGateway.Text.Quoted

/-!
# Faults of a configuration

Why a configuration that could be read is refused.
-/

namespace TelemetryGateway

/-- Why a configuration is refused. -/
inductive ConfigFault where
  | emptyTargetName
  | noAddress (target : String)
  | unknownRequest (target request : String)
  | noSubscriptionList (target request : String)
  | unusableRequest (target : String)
  | zeroTargetLimit
  | zeroDialTimeout
  | zeroRetryInterval
  | missingLockDirectory
  | subscriberInstalled
deriving DecidableEq

namespace ConfigFault

def reason : ConfigFault → String
  | .emptyTargetName => "target name cannot be empty"
  | .noAddress target => "target " ++ target ++ " needs at least one non-empty address"
  | .unknownRequest target request =>
      "target " ++ target ++ " references unknown request " ++ Text.quote request
  | .noSubscriptionList target request =>
      "request " ++ Text.quote request ++ " used by target " ++ target ++
        " has no subscription list"
  | .unusableRequest target => "target " ++ target ++ " has no usable request"
  | .zeroTargetLimit => "target_limit must be greater than 0"
  | .zeroDialTimeout => "target_dial_timeout_ms must be greater than 0"
  | .zeroRetryInterval => "lock_retry_interval_ms must be greater than 0"
  | .missingLockDirectory => "lock.dir is required for the file lock backend"
  | .subscriberInstalled => "failed to install log subscriber"

end ConfigFault

end TelemetryGateway
