import TelemetryGateway.Lock.Service

/-!
# Gates of a lock registry

What one operation on a gate does, case by case: the gate owns its lock already, another one holds
the name, or the name is free.  Giving a lock back twice is the same as giving it back once.
-/

namespace TelemetryGateway.LockRegistry

variable {r : LockRegistry} {gate : Nat} {target : String}

theorem isHeld_eq_true_iff : r.isHeld target = true ↔ target ∈ r.held := by
  simp [isHeld]

/-! ## Taking -/

theorem tryAcquire_of_owned (h : r.gates[gate]? = some ⟨target, true⟩) :
    r.tryAcquire gate = (true, r) := by
  simp [tryAcquire, h]

theorem tryAcquire_of_held (h : r.gates[gate]? = some ⟨target, false⟩) (hheld : target ∈ r.held) :
    r.tryAcquire gate = (false, r) := by
  simp [tryAcquire, h, isHeld, hheld]

theorem tryAcquire_of_free (h : r.gates[gate]? = some ⟨target, false⟩)
    (hfree : target ∉ r.held) :
    r.tryAcquire gate = (true, ⟨target :: r.held, r.gates.set gate ⟨target, true⟩⟩) := by
  simp [tryAcquire, h, isHeld, hfree]

/-! ## Giving back -/

theorem unlock_of_owned (h : r.gates[gate]? = some ⟨target, true⟩) :
    r.unlock gate = ⟨r.held.filter (· != target), r.gates.set gate ⟨target, false⟩⟩ := by
  simp [unlock, h]

theorem unlock_of_not_owned (h : r.gates[gate]? = some ⟨target, false⟩) : r.unlock gate = r := by
  simp [unlock, h]

theorem unlock_of_none (h : r.gates[gate]? = none) : r.unlock gate = r := by
  simp [unlock, h]

/-- A lock that was given back is not given back again. -/
@[simp] theorem unlock_unlock (r : LockRegistry) (gate : Nat) :
    (r.unlock gate).unlock gate = r.unlock gate := by
  cases h : r.gates[gate]? with
  | none => rw [unlock_of_none h, unlock_of_none h]
  | some g =>
      obtain ⟨target, owned⟩ := g
      cases owned with
      | false => rw [unlock_of_not_owned h, unlock_of_not_owned h]
      | true =>
          have hlt := (List.getElem?_eq_some_iff.mp h).1
          rw [unlock_of_owned h, unlock_of_not_owned (List.getElem?_set_self hlt)]

end TelemetryGateway.LockRegistry
