import TelemetryGateway.Denylist
import TelemetryGateway.Error

/-!
# Gateway configuration

The settings of a gateway.  Every field has a default, so nothing has to be configured; a
configuration is accepted if the limit and the intervals are not zero and a lock backend that works
on files has a directory.
-/

namespace TelemetryGateway

/-- Where the locks of targets live: in the process, or as files in a shared directory. -/
inductive LockBackend where
  | local
  | file
deriving DecidableEq, Inhabited

structure LockConfig where
  backend : LockBackend := .local
  dir : Option String := none
deriving DecidableEq, Inhabited

inductive LogFormat where
  | pretty
  | json
deriving DecidableEq, Inhabited

structure LoggingConfig where
  level : String := "info"
  format : LogFormat := .pretty
deriving DecidableEq, Inhabited

/-- The settings of a gateway; times are in milliseconds. -/
structure GatewayConfig where
  targetDialTimeout : UInt64 := 10000
  targetLimit : UInt64 := 100
  lockRetryInterval : UInt64 := 50
  insecureSkipVerify : Bool := true
  rejectionScope : RejectionScope := .update
  shutdownGrace : UInt64 := 5000
  lock : LockConfig := {}
  logging : LoggingConfig := {}
deriving DecidableEq, Inhabited

/-- Whether the certificate of a target is checked. -/
structure TlsSettings where
  insecureSkipVerify : Bool := true
deriving DecidableEq, Inhabited

/-- What every connection of a gateway has in common; times are in milliseconds. -/
structure ConnectionSettings where
  dialTimeout : Nat := 10000
  retryInterval : Nat := 50
  tls : TlsSettings := {}
  rejectionScope : RejectionScope := .update
deriving DecidableEq, Inhabited

namespace LockBackend

def name : LockBackend → String
  | .local => "local"
  | .file => "file"

def decode : Decoder LockBackend := .choice [("local", .local), ("file", .file)]

end LockBackend

namespace LogFormat

def name : LogFormat → String
  | .pretty => "pretty"
  | .json => "json"

def decode : Decoder LogFormat := .choice [("pretty", .pretty), ("json", .json)]

end LogFormat

open FieldReader Document

namespace LockConfig

def decode : Decoder LockConfig := .record do
  let backend ← withDefault "backend" .local LockBackend.decode
  let dir ← optional "dir" .text
  return { backend, dir }

def encode (c : LockConfig) : Document :=
  .record (field "backend" (.text c.backend.name) ++ fieldIfSome "dir" .text c.dir)

end LockConfig

namespace LoggingConfig

def decode : Decoder LoggingConfig := .record do
  let level ← withDefault "level" "info" .text
  let format ← withDefault "format" .pretty LogFormat.decode
  return { level, format }

def encode (c : LoggingConfig) : Document :=
  .record (field "level" (.text c.level) ++ field "format" (.text c.format.name))

end LoggingConfig

namespace TlsSettings

def decode : Decoder TlsSettings := .record do
  let insecureSkipVerify ← required "insecure_skip_verify" .bool
  return { insecureSkipVerify }

def encode (s : TlsSettings) : Document :=
  .record (field "insecure_skip_verify" (.bool s.insecureSkipVerify))

end TlsSettings

namespace GatewayConfig

def decode : Decoder GatewayConfig := .record do
  let targetDialTimeout ← withDefault "target_dial_timeout_ms" 10000 .uint64
  let targetLimit ← withDefault "target_limit" 100 .uint64
  let lockRetryInterval ← withDefault "lock_retry_interval_ms" 50 .uint64
  let insecureSkipVerify ← withDefault "insecure_skip_verify" true .bool
  let rejectionScope ← withDefault "rejection_scope" .update RejectionScope.decode
  let shutdownGrace ← withDefault "shutdown_grace_ms" 5000 .uint64
  let lock ← withDefault "lock" {} LockConfig.decode
  let logging ← withDefault "logging" {} LoggingConfig.decode
  return {
    targetDialTimeout, targetLimit, lockRetryInterval, insecureSkipVerify, rejectionScope,
    shutdownGrace, lock, logging }

def encode (c : GatewayConfig) : Document :=
  .record (field "target_dial_timeout_ms" (.nat c.targetDialTimeout.toNat) ++
    field "target_limit" (.nat c.targetLimit.toNat) ++
    field "lock_retry_interval_ms" (.nat c.lockRetryInterval.toNat) ++
    field "insecure_skip_verify" (.bool c.insecureSkipVerify) ++
    field "rejection_scope" c.rejectionScope.encode ++
    field "shutdown_grace_ms" (.nat c.shutdownGrace.toNat) ++
    field "lock" c.lock.encode ++ field "logging" c.logging.encode)

def fault? (c : GatewayConfig) : Option ConfigFault :=
  if c.targetLimit = 0 then some .zeroTargetLimit
  else if c.targetDialTimeout = 0 then some .zeroDialTimeout
  else if c.lockRetryInterval = 0 then some .zeroRetryInterval
  else if c.lock.backend = .file ∧ c.lock.dir = none then some .missingLockDirectory
  else none

def validate (c : GatewayConfig) : Except GatewayError Unit :=
  match c.fault? with
  | some fault => .error (.ofFault fault)
  | none => .ok ()

def connectionSettings (c : GatewayConfig) : ConnectionSettings where
  dialTimeout := c.targetDialTimeout.toNat
  retryInterval := c.lockRetryInterval.toNat
  tls := ⟨c.insecureSkipVerify⟩
  rejectionScope := c.rejectionScope

end GatewayConfig

end TelemetryGateway
