import TelemetryGateway.Lock.Metadata
import TelemetryGateway.Lock.FilePath
import TelemetryGateway.Proofs.Document.Restoration

/-!
# The two files of a lock

Two targets share a lock file exactly when their names become the same one (`LockFile.name_inj`).  A
sidecar belongs to one lock file (`LockFile.sidecar_inj`) and is none itself
(`LockFile.sidecar_ne_name`), so what happens to the one file leaves the other alone.  What the
holder writes into the sidecar is what a reader finds in it (`LockMetadata.parse?_render`).
-/

namespace TelemetryGateway

namespace LockFile

variable {t t' n n' : String}

/-! ## Names -/

theorem name_inj : name t = name t' ↔ sanitize t = sanitize t' := by
  simp [name, String.ext_iff]

theorem sidecar_inj : sidecar n = sidecar n' ↔ n = n' := by
  simp [sidecar, String.ext_iff]

/-- The one ends in `k`, the other in `n`. -/
theorem sidecar_ne_name (n t : String) : sidecar n ≠ name t := by
  intro h
  have hlast := congrArg (fun s => s.toList.getLast?) h
  simp [sidecar, name] at hlast

/-- Whether a name is that of the lock file of some target. -/
def IsLockName (n : String) : Prop := ∃ t, n = name t

theorem isLockName_name (t : String) : IsLockName (name t) := ⟨t, rfl⟩

theorem not_isLockName_sidecar (n : String) : ¬ IsLockName (sidecar n) :=
  fun ⟨t, h⟩ => sidecar_ne_name n t h

end LockFile

/-! ## The content of a sidecar -/

namespace LockMetadata

open FieldReader Schema

/-- Every field of the metadata has to be there. -/
def schema : Schema := .record [] fun _ => .whole

@[simp] theorem isPlain_encode (m : LockMetadata) : m.encode.IsPlain := by simp [encode]

theorem restores (m : LockMetadata) : schema.Restores decode m.encode m := by
  refine restores_record fun c rest h => ?_
  have hpid : (required "pid" .uint32).Finds c rest m.pid :=
    h.finds_required (by simp) rfl (restores_uint32 m.pid)
  have htarget : (required "target" .text).Finds c rest m.target :=
    h.finds_required (by simp) rfl (restores_text m.target)
  have hat : (required "acquired_at" .uint64).Finds c rest m.acquiredAt :=
    h.finds_required (by simp) rfl (restores_uint64 m.acquiredAt)
  have hversion : (required "gateway_version" .text).Finds c rest m.gatewayVersion :=
    h.finds_required (by simp) rfl (restores_text m.gatewayVersion)
  exact hpid.bind (htarget.bind (hat.bind (hversion.bind (finds_pure m))))

/-- What is written about a lock is read back. -/
theorem parse?_render (m : LockMetadata) : parse? m.render = some m := by
  unfold parse? render
  rw [Json.read_renderLines m.isPlain_encode, Option.bind_some, m.restores.decode]

end LockMetadata

end TelemetryGateway
