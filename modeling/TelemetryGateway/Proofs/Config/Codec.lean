import TelemetryGateway.Config.Gateway
import TelemetryGateway.Proofs.Message.Codec
import TelemetryGateway.Target.Configuration

/-!
# Reading configurations that were written

The schemas of target configurations and gateway configurations, and for each the lemma that its
decoder restores a value from the document that its encoder writes.  The defaults of a gateway
configuration stand in three places: in the structure, in the decoder and in the schema; that they
agree is part of what is proved.
-/

namespace TelemetryGateway

open FieldReader Schema

/-! ## Targets -/

namespace Credentials

/-- Credentials need a user name and a password. -/
def schema : Schema := .record [] fun _ => .whole

@[simp] theorem isPlain_encode (c : Credentials) : c.encode.IsPlain := by simp [encode]

theorem restores (credentials : Credentials) :
    schema.Restores decode credentials.encode credentials := by
  refine restores_record fun c rest h => ?_
  have husername : (required "username" .text).Finds c rest credentials.username :=
    h.finds_required (by simp) rfl (restores_text _)
  have hpassword : (required "password" .text).Finds c rest credentials.password :=
    h.finds_required (by simp) rfl (restores_text _)
  exact husername.bind (hpassword.bind (finds_pure credentials))

end Credentials

namespace TargetDescriptor

/-- A target needs a list of addresses, which may be empty. -/
def schema : Schema :=
  .record [("credentials", .null), ("request", .text ""), ("meta", .record [])] fun
    | "addresses" => .list .whole
    | "credentials" => Credentials.schema
    | "meta" => .entries fun _ => .whole
    | _ => .whole

@[simp] theorem isPlain_encode (d : TargetDescriptor) : d.encode.IsPlain := by simp [encode]

theorem restores (d : TargetDescriptor) : schema.Restores decode d.encode d := by
  refine restores_record fun c rest h => ?_
  have haddresses : (required "addresses" (.list .text)).Finds c rest d.addresses :=
    h.finds_required (by simp) rfl (restores_list fun a _ => restores_text a)
  have hcredentials : (optional "credentials" Credentials.decode).Finds c rest d.credentials :=
    h.finds_optional (by simp) rfl (fun _ => rfl) fun credentials _ => credentials.restores
  have hrequest : (withDefault "request" "" .text).Finds c rest d.request :=
    h.finds_withDefault (by simp) rfl (fun _ => rfl) (restores_text d.request)
  have hmetadata : (withDefault "meta" ∅ (.dictionary .text)).Finds c rest d.metadata :=
    h.finds_unless (by simp) Dictionary.eq_empty_of_isEmpty rfl (fun _ => rfl)
      (restores_texts d.metadata)
  exact haddresses.bind (hcredentials.bind (hrequest.bind (hmetadata.bind (finds_pure d))))

end TargetDescriptor

namespace TargetConfiguration

/-- There need not be any targets or requests. -/
def schema : Schema :=
  .record [("targets", .record []), ("requests", .record [])] fun
    | "targets" => .entries fun _ => TargetDescriptor.schema
    | "requests" => .entries fun _ => SubscribeRequest.schema
    | _ => .whole

@[simp] theorem isPlain_encode (c : TargetConfiguration) : c.encode.IsPlain := by simp [encode]

theorem restores (config : TargetConfiguration) :
    schema.Restores decode config.encode config := by
  refine restores_record fun c rest h => ?_
  have htargets : (withDefault "targets" ∅ (.dictionary TargetDescriptor.decode)).Finds c rest
      config.targets :=
    h.finds_withDefault (by simp) rfl (fun _ => rfl) (restores_dictionary fun e _ => e.2.restores)
  have hrequests : (withDefault "requests" ∅ (.dictionary SubscribeRequest.decode)).Finds c rest
      config.requests :=
    h.finds_withDefault (by simp) rfl (fun _ => rfl) (restores_dictionary fun e _ => e.2.restores)
  exact htargets.bind (hrequests.bind (finds_pure config))

end TargetConfiguration

/-! ## The gateway -/

theorem LockBackend.restores (b : LockBackend) : Schema.whole.Restores decode (.text b.name) b := by
  cases b <;> exact restores_choice rfl

theorem LogFormat.restores (f : LogFormat) : Schema.whole.Restores decode (.text f.name) f := by
  cases f <;> exact restores_choice rfl

namespace RejectionScope

@[simp] theorem isPlain_encode (s : RejectionScope) : s.encode.IsPlain := trivial

theorem restores (s : RejectionScope) : Schema.whole.Restores decode s.encode s := by
  cases s <;> exact restores_choice rfl

end RejectionScope

namespace LockConfig

/-- Both fields have a default. -/
def schema : Schema := .record [("backend", .text "local"), ("dir", .null)] fun _ => .whole

@[simp] theorem isPlain_encode (l : LockConfig) : l.encode.IsPlain := by simp [encode]

theorem restores (l : LockConfig) : schema.Restores decode l.encode l := by
  refine restores_record fun c rest h => ?_
  have hbackend : (withDefault "backend" .local LockBackend.decode).Finds c rest l.backend :=
    h.finds_withDefault (by simp) rfl (fun _ => rfl) l.backend.restores
  have hdir : (optional "dir" .text).Finds c rest l.dir :=
    h.finds_optional (by simp) rfl (fun _ => rfl) fun dir _ => restores_text dir
  exact hbackend.bind (hdir.bind (finds_pure l))

end LockConfig

namespace LoggingConfig

/-- Both fields have a default. -/
def schema : Schema := .record [("level", .text "info"), ("format", .text "pretty")] fun _ => .whole

@[simp] theorem isPlain_encode (l : LoggingConfig) : l.encode.IsPlain := by simp [encode]

theorem restores (l : LoggingConfig) : schema.Restores decode l.encode l := by
  refine restores_record fun c rest h => ?_
  have hlevel : (withDefault "level" "info" .text).Finds c rest l.level :=
    h.finds_withDefault (by simp) rfl (fun _ => rfl) (restores_text l.level)
  have hformat : (withDefault "format" .pretty LogFormat.decode).Finds c rest l.format :=
    h.finds_withDefault (by simp) rfl (fun _ => rfl) l.format.restores
  exact hlevel.bind (hformat.bind (finds_pure l))

end LoggingConfig

namespace GatewayConfig

/-- Every field of a gateway configuration has a default. -/
def schema : Schema :=
  .record
    [("target_dial_timeout_ms", .nat 10000), ("target_limit", .nat 100),
      ("lock_retry_interval_ms", .nat 50), ("insecure_skip_verify", .bool true),
      ("rejection_scope", .text "update"), ("shutdown_grace_ms", .nat 5000),
      ("lock", .record [("backend", .text "local")]),
      ("logging", .record [("level", .text "info"), ("format", .text "pretty")])] fun
    | "lock" => LockConfig.schema
    | "logging" => LoggingConfig.schema
    | _ => .whole

@[simp] theorem isPlain_encode (g : GatewayConfig) : g.encode.IsPlain := by simp [encode]

theorem restores (g : GatewayConfig) : schema.Restores decode g.encode g := by
  refine restores_record fun c rest h => ?_
  have hdial : (withDefault "target_dial_timeout_ms" 10000 .uint64).Finds c rest
      g.targetDialTimeout :=
    h.finds_withDefault (by simp) rfl (fun _ => rfl) (restores_uint64 g.targetDialTimeout)
  have hlimit : (withDefault "target_limit" 100 .uint64).Finds c rest g.targetLimit :=
    h.finds_withDefault (by simp) rfl (fun _ => rfl) (restores_uint64 g.targetLimit)
  have hretry : (withDefault "lock_retry_interval_ms" 50 .uint64).Finds c rest
      g.lockRetryInterval :=
    h.finds_withDefault (by simp) rfl (fun _ => rfl) (restores_uint64 g.lockRetryInterval)
  have hverify : (withDefault "insecure_skip_verify" true .bool).Finds c rest
      g.insecureSkipVerify :=
    h.finds_withDefault (by simp) rfl (fun _ => rfl) (restores_bool g.insecureSkipVerify)
  have hscope : (withDefault "rejection_scope" .update RejectionScope.decode).Finds c rest
      g.rejectionScope :=
    h.finds_withDefault (by simp) rfl (fun _ => rfl) g.rejectionScope.restores
  have hgrace : (withDefault "shutdown_grace_ms" 5000 .uint64).Finds c rest g.shutdownGrace :=
    h.finds_withDefault (by simp) rfl (fun _ => rfl) (restores_uint64 g.shutdownGrace)
  have hlock : (withDefault "lock" {} LockConfig.decode).Finds c rest g.lock :=
    h.finds_withDefault (by simp) rfl (fun _ => rfl) g.lock.restores
  have hlogging : (withDefault "logging" {} LoggingConfig.decode).Finds c rest g.logging :=
    h.finds_withDefault (by simp) rfl (fun _ => rfl) g.logging.restores
  exact hdial.bind (hlimit.bind (hretry.bind (hverify.bind (hscope.bind (hgrace.bind
    (hlock.bind (hlogging.bind (finds_pure g))))))))

end GatewayConfig

end TelemetryGateway
